import Mathlib.Data.List.Induction
import Mathlib.Data.List.Pairwise
import TestDouble.Proofs.Recorder.Capacity
import TestDouble.Proofs.Recorder.Growth
import TestDouble.Proofs.Recorder.History

/-!
# Demand

In a run of registrations and calls in which no call suits two registrations it does not matter
which expectation comes first. Each has a *demand*, the calls since its registration that suit it,
and takes its `share` of them: all, or while caps are enforced as many as fit under a cap other than
zero. `Book.Meets` says that a book holds what the moves so far demand, `Book.Meets.play` that it
does so after every run.
-/

namespace TestDouble

variable {saturate : Bool} {operation : String} {arguments : List Json}

namespace Registration

/-- The registration is for such calls. -/
def Suits (operation : String) (arguments : List Json) (r : Registration) : Prop :=
  r.operation = operation ∧ r.matcher.accepts arguments = .ok true

instance (r : Registration) : Decidable (r.Suits operation arguments) :=
  inferInstanceAs (Decidable (_ ∧ _))

/-- No call suits both registrations. -/
def Disjoint (r r' : Registration) : Prop :=
  ∀ operation arguments, ¬ (r.Suits operation arguments ∧ r'.Suits operation arguments)

/-- How many of `n` calls that suit it a registration gets. -/
def share (saturate : Bool) (r : Registration) (n : Nat) : Nat :=
  match r.times.max with
  | some m => if saturate ∧ 0 < m then min n m else n
  | none => n

variable {r : Registration}

@[simp] theorem share_false (r : Registration) (n : Nat) : r.share false n = n := by
  unfold share
  split <;> simp

theorem share_zero (saturate : Bool) (r : Registration) : r.share saturate 0 = 0 := by
  unfold share
  split
  · split_ifs <;> omega
  · rfl

theorem share_le (saturate : Bool) (r : Registration) (n : Nat) : r.share saturate n ≤ n := by
  unfold share
  split
  · split_ifs <;> omega
  · exact Nat.le_refl n

/-- A call more is one more for the registration, unless its cap is reached. -/
theorem share_succ (saturate : Bool) (r : Registration) (id n : Nat) :
    r.share saturate (n + 1) =
      if (r.expectation id (r.share saturate n)).isExhausted saturate then r.share saturate n
      else r.share saturate n + 1 := by
  cases saturate with
  | false => simp [Expectation.isExhausted]
  | true =>
    rw [Expectation.isExhausted, Bool.true_and]
    cases hmax : r.times.max with
    | none => simp [share, expectation, Times.isExhaustedBy, hmax]
    | some m =>
      simp only [share, expectation, Times.isExhaustedBy, hmax, Option.any_some, true_and,
        Bool.and_eq_true, decide_eq_true_eq]
      split_ifs <;> omega

/-- If the count of all suitable calls is as it should be, none of them is too many. -/
theorem share_eq_self {n : Nat} (h : r.times.isSatisfiedBy n = true) (saturate : Bool) :
    r.share saturate n = n := by
  obtain ⟨-, hle⟩ := Times.isSatisfiedBy_iff.mp h
  unfold share
  split
  · next m hmax =>
    have := hle m hmax
    split_ifs <;> omega
  · rfl

end Registration

/-- A registration, and how many calls since then it suits. -/
structure Demand where
  registration : Registration
  calls : Nat

namespace Demand

/-- The expectation that has taken its share of the calls. -/
def expectation (saturate : Bool) (d : Demand) (id : Nat) : Expectation :=
  d.registration.expectation id (d.registration.share saturate d.calls)

/-- The demand after one more call. -/
def meet (operation : String) (arguments : List Json) (d : Demand) : Demand :=
  if d.registration.Suits operation arguments then { d with calls := d.calls + 1 } else d

@[simp] theorem meet_registration (d : Demand) :
    (d.meet operation arguments).registration = d.registration := by
  unfold meet
  split_ifs <;> rfl

end Demand

/-- The expectation after a call that no other one may take. -/
def Expectation.offer (saturate : Bool) (operation : String) (arguments : List Json)
    (e : Expectation) : Expectation :=
  if e.accepts saturate operation arguments = .ok true then e.consume else e

/-- An expectation that is offered a call still has its share. -/
theorem Demand.expectation_meet (saturate : Bool) (operation : String) (arguments : List Json)
    (d : Demand) (id : Nat) :
    (d.meet operation arguments).expectation saturate id =
      (d.expectation saturate id).offer saturate operation arguments := by
  unfold meet Expectation.offer
  by_cases hs : d.registration.Suits operation arguments
  · have haccepts : (d.expectation saturate id).accepts saturate operation arguments = .ok true ↔
        (d.expectation saturate id).isExhausted saturate = false := by
      rw [Expectation.accepts_eq_true_iff]
      exact ⟨fun h => h.2.1, fun h => ⟨hs.1, h, hs.2⟩⟩
    rw [if_pos hs]
    simp only [haccepts]
    rw [expectation, Registration.share_succ saturate _ id, expectation]
    cases (d.registration.expectation id (d.registration.share saturate d.calls)).isExhausted
      saturate <;> rfl
  · rw [if_neg hs, if_neg]
    intro h
    obtain ⟨ho, -, hm⟩ := Expectation.accepts_eq_true_iff.mp h
    exact hs ⟨ho, hm⟩

namespace Expectation

@[simp] theorem suits_offer {saturate : Bool} {o : String} {vs : List Json} {e : Expectation} :
    (e.offer saturate o vs).Suits operation arguments ↔ e.Suits operation arguments := by
  unfold offer
  split_ifs <;> simp

/-- No call suits both expectations. -/
def Disjoint (x y : Expectation) : Prop :=
  ∀ operation arguments, ¬ (x.Suits operation arguments ∧ y.Suits operation arguments)

instance : Std.Symm Disjoint :=
  ⟨fun _ _ h operation arguments hboth => h operation arguments hboth.symm⟩

/-- If no call suits two expectations, a call suits only one. -/
theorem eq_of_suits {es : List Expectation} (h : es.Pairwise Disjoint) {x y : Expectation}
    (hx : x ∈ es) (hy : y ∈ es) (hxs : x.Suits operation arguments)
    (hys : y.Suits operation arguments) : x = y := by
  by_contra hne
  exact h.forall hx hy hne operation arguments ⟨hxs, hys⟩

end Expectation

/-- Calls do not change which calls suit an expectation. -/
theorem Book.record_disjoint {b : Book} (h : b.expectations.Pairwise Expectation.Disjoint)
    (saturate : Bool) (operation : String) (arguments : List Json) :
    (b.record saturate operation arguments).2.expectations.Pairwise Expectation.Disjoint := by
  refine Turn.step_pairwise .strict (t := .call saturate operation arguments) (fun _ _ hxy => hxy)
    (fun _ _ hxy => hxy) ?_ h
  rintro _ _ _ _ _ ⟨⟩

/-- **A call that at most one expectation suits** is offered to each of them, unless a predicate
crashes. -/
theorem Book.record_offer (saturate : Bool) (operation : String) (arguments : List Json) {b : Book}
    (h : b.expectations.Pairwise Expectation.Disjoint) :
    (∃ c, b.record saturate operation arguments = (.error c, b.skip)) ∨
      ∃ taker, (b.record saturate operation arguments).2 =
        b.enter operation arguments taker
          (b.expectations.map (Expectation.offer saturate operation arguments)) := by
  have hrefuse : ∀ es : List Expectation,
      (∀ e ∈ es, e.accepts saturate operation arguments ≠ .ok true) →
      es.map (Expectation.offer saturate operation arguments) = es := by
    intro es hes
    refine (List.map_congr_left fun e he => ?_).trans (List.map_id _)
    exact if_neg (hes e he)
  rcases b.record_cases saturate operation arguments with
    hcrash | ⟨hall, hr⟩ | ⟨l, e, r, hes, hl, he, hr⟩
  · exact .inl hcrash
  · refine .inr ⟨none, ?_⟩
    rw [hr, hrefuse _ fun e he => by rw [hall e he]; simp]
  · refine .inr ⟨some e.id, ?_⟩
    obtain ⟨ho, -, hm⟩ := Expectation.accepts_eq_true_iff.mp he
    rw [hes, List.pairwise_append, List.pairwise_cons] at h
    obtain ⟨-, ⟨hafter, -⟩, -⟩ := h
    -- what comes later does not suit the call
    have hr' : ∀ x ∈ r, x.accepts saturate operation arguments ≠ .ok true := by
      intro x hx hxa
      obtain ⟨hxo, -, hxm⟩ := Expectation.accepts_eq_true_iff.mp hxa
      exact hafter x hx operation arguments ⟨⟨ho, hm⟩, hxo, hxm⟩
    rw [hr, hes, List.map_append, List.map_cons, hrefuse r hr',
      hrefuse l fun x hx => by rw [hl x hx]; simp, Expectation.offer, if_pos he]

/-- A registration or a call, whatever the handle that it is made with. -/
inductive Move where
  | register (r : Registration)
  | call (operation : String) (arguments : List Json)

namespace Move

/-- The move that makes a call. -/
def ofCall (c : String × List Json) : Move := call c.1 c.2

/-- The turn that a move is, with a handle that enforces caps or with one that does not. -/
def turn (saturate : Bool) : Move → Turn
  | register r => .register saturate r.operation r.matcher r.outcome r.times
  | call operation arguments => .call saturate operation arguments

/-- What is registered. -/
def registrations (ms : List Move) : List Registration :=
  ms.filterMap fun
    | register r => some r
    | call .. => none

/-- What is called. -/
def calls (ms : List Move) : List (String × List Json) :=
  ms.filterMap fun
    | register _ => none
    | call operation arguments => some (operation, arguments)

@[simp] theorem registrations_register (r : Registration) (ms : List Move) :
    registrations (register r :: ms) = r :: registrations ms := rfl

@[simp] theorem registrations_call (ms : List Move) :
    registrations (call operation arguments :: ms) = registrations ms := rfl

@[simp] theorem registrations_append (ms ms' : List Move) :
    registrations (ms ++ ms') = registrations ms ++ registrations ms' := List.filterMap_append

@[simp] theorem calls_register (r : Registration) (ms : List Move) :
    calls (register r :: ms) = calls ms := rfl

@[simp] theorem calls_call (ms : List Move) :
    calls (call operation arguments :: ms) = (operation, arguments) :: calls ms := rfl

@[simp] theorem calls_append (ms ms' : List Move) : calls (ms ++ ms') = calls ms ++ calls ms' :=
  List.filterMap_append

/-- The demands after one more move. -/
def note (ds : List Demand) : Move → List Demand
  | register r => ds ++ [⟨r, 0⟩]
  | call operation arguments => ds.map (Demand.meet operation arguments)

/-- The demands that moves make, in the order of registration. -/
def demands (ms : List Move) : List Demand := ms.foldl note []

/-- The expectations after some moves, each with its share of the calls. -/
def expectations (saturate : Bool) (ms : List Move) : List Expectation :=
  (demands ms).zipIdx.map fun p => p.1.expectation saturate p.2

/-- The move adds what it is about: the registration is accepted, or the call is recorded. -/
def Lands (b b' : Book) : Move → Prop
  | register _ => b'.expectations.length = b.expectations.length + 1
  | call .. => b'.calls.length = b.calls.length + 1

/-- The look-up of a call that is recorded has not crashed. -/
theorem Lands.not_crashed {b : Book}
    (h : (call operation arguments).Lands b (b.record saturate operation arguments).2) (c : Crash) :
    b.record saturate operation arguments ≠ (.error c, b.skip) := by
  intro hr
  simp [Lands, hr, Book.skip] at h

/-- All the moves add what they are about, one after another. -/
def AllLand (mode : Mode) (saturate : Bool) : List Move → Book → Prop
  | [], _ => True
  | m :: ms, b =>
    m.Lands b ((m.turn saturate).step mode b) ∧
      AllLand mode saturate ms ((m.turn saturate).step mode b)

variable {r : Registration} {ms past : List Move} {mode : Mode}

theorem allLand_append {ms ms' : List Move} {b : Book} :
    AllLand mode saturate (ms ++ ms') b ↔ AllLand mode saturate ms b ∧
      AllLand mode saturate ms' (Turn.play mode (ms.map (turn saturate)) b) := by
  induction ms generalizing b with
  | nil => exact ⟨fun h => ⟨trivial, h⟩, And.right⟩
  | cons m ms ih =>
    rw [List.cons_append, AllLand, AllLand, ih, and_assoc]
    rfl

/-- Where no predicate crashes, every call is recorded. -/
theorem allLand_calls {b : Book} (h : ∀ e ∈ b.expectations, e.matcher.Total)
    (cs : List (String × List Json)) : AllLand mode saturate (cs.map ofCall) b := by
  induction cs generalizing b with
  | nil => trivial
  | cons c cs ih =>
    refine ⟨?_, ih ?_⟩
    · rcases Expectation.refuse_or_first saturate c.1 fun e he => h e he c.2 with
        hall | ⟨l, e, r, hes, hl, he⟩
      · simp [ofCall, turn, Lands, Book.record_none hall]
      · simp [ofCall, turn, Lands, Book.record_split hes hl he]
    · exact Turn.step_forall (P := fun e => e.matcher.Total) (t := .call saturate c.1 c.2) mode
        (by rintro _ _ _ _ _ _ ⟨⟩) (fun _ _ _ _ _ _ he => he) h

theorem reset_notMem (saturate : Bool) (ms : List Move) : .reset ∉ ms.map (turn saturate) := by
  rw [List.mem_map]
  rintro ⟨m, -, hm⟩
  cases m <;> cases hm

theorem turns_silent (h : ∀ r ∈ registrations ms, r.outcome.Silent) :
    ∀ t ∈ ms.map (turn saturate), t.Silent := by
  rw [List.forall_mem_map]
  intro m hm
  cases m with
  | register r => exact h r (List.mem_filterMap.mpr ⟨_, hm, rfl⟩)
  | call operation arguments => trivial

theorem demands_append (ms : List Move) (m : Move) : demands (ms ++ [m]) = note (demands ms) m := by
  simp [demands]

/-- There is one demand for each registration. -/
theorem demands_registrations (ms : List Move) :
    (demands ms).map (·.registration) = registrations ms := by
  induction ms using List.reverseRecOn with
  | nil => rfl
  | append_singleton ms m ih =>
    rw [demands_append, registrations_append, ← ih]
    cases m with
    | register r => simp [note, registrations]
    | call operation arguments => simp [note, registrations, Function.comp_def]

theorem length_demands (ms : List Move) : (demands ms).length = (registrations ms).length := by
  rw [← demands_registrations, List.length_map]

/-- Later moves add to a demand the calls that suit it. -/
theorem getElem?_foldl_note (ms : List Move) {ds : List Demand} {i : Nat} {d : Demand}
    (h : ds[i]? = some d) :
    (ms.foldl note ds)[i]? = some { d with
      calls := d.calls + (calls ms).countP fun c => d.registration.Suits c.1 c.2 } := by
  induction ms generalizing ds d with
  | nil => exact h
  | cons m ms ih =>
    cases m with
    | register r =>
      refine ih ?_
      rw [note, List.getElem?_append_left (List.getElem?_eq_some_iff.mp h).1, h]
    | call operation arguments =>
      have hd : (note ds (call operation arguments))[i]? = some (d.meet operation arguments) := by
        rw [note, List.getElem?_map, h]
        rfl
      have hcount : (d.meet operation arguments).calls = d.calls +
          if d.registration.Suits operation arguments then 1 else 0 := by
        unfold Demand.meet
        split_ifs <;> rfl
      rw [List.foldl_cons, ih hd, Demand.meet_registration, hcount, calls_call, List.countP_cons,
        Nat.add_assoc, Nat.add_comm (ite ..)]
      simp only [decide_eq_true_eq]

/-- The demand of a registration is the number of calls after it that suit it. -/
theorem demands_at (before : List Move) (r : Registration) (after : List Move) :
    (demands (before ++ register r :: after))[(registrations before).length]? =
      some ⟨r, (calls after).countP fun c => r.Suits c.1 c.2⟩ := by
  have hd : (note (demands before) (register r))[(registrations before).length]? =
      some ⟨r, 0⟩ := by
    rw [note, ← length_demands, List.getElem?_append_right (Nat.le_refl _), Nat.sub_self]
    rfl
  rw [demands, List.foldl_append, List.foldl_cons, ← demands, getElem?_foldl_note after hd,
    Nat.zero_add]

end Move

/-- The book holds what some moves on a new recorder lead to. -/
structure Book.Meets (saturate : Bool) (ms : List Move) (b : Book) : Prop where
  expectations : b.expectations = Move.expectations saturate ms
  next : b.nextExpectation = (Move.registrations ms).length
  calls : b.calls.map (fun c => (c.operation, c.arguments)) = Move.calls ms
  unverified : ∀ c ∈ b.calls, c.verified = false

namespace Book.Meets

variable {b : Book} {ms past : List Move} {mode : Mode}

theorem empty (saturate : Bool) : Book.empty.Meets saturate [] :=
  ⟨rfl, rfl, rfl, by simp [Book.empty]⟩

/-- A call suits at most one of the expectations. -/
theorem pairwise (h : b.Meets saturate ms)
    (hd : (Move.registrations ms).Pairwise Registration.Disjoint) :
    b.expectations.Pairwise Expectation.Disjoint := by
  rw [← Move.demands_registrations, List.pairwise_map,
    ← List.zipIdx_map_fst 0 (Move.demands ms), List.pairwise_map] at hd
  rw [h.expectations, Move.expectations, List.pairwise_map]
  exact hd

theorem register (h : b.Meets saturate ms) (r : Registration) :
    (b.add r.operation r.matcher r.outcome r.times).Meets saturate (ms ++ [.register r]) where
  expectations := by
    simp only [Book.add, h.expectations, h.next, Move.expectations, Move.demands_append, Move.note,
      List.zipIdx_append, List.map_append, Nat.zero_add, List.zipIdx_singleton, List.map_singleton,
      Move.length_demands, Demand.expectation, Registration.share_zero]
    rfl
  next := by simp [Book.add, h.next, Move.registrations]
  calls := by simp [Book.add, h.calls, Move.calls]
  unverified := h.unverified

theorem call (h : b.Meets saturate ms) (operation : String) (arguments : List Json)
    (taker : Option Nat) :
    (b.enter operation arguments taker
      (b.expectations.map (Expectation.offer saturate operation arguments))).Meets saturate
        (ms ++ [.call operation arguments]) where
  expectations := by
    simp only [enter_expectations, h.expectations, Move.expectations, Move.demands_append,
      Move.note, List.zipIdx_map, List.map_map]
    refine List.map_congr_left fun p _ => ?_
    exact (Demand.expectation_meet saturate operation arguments p.1 p.2).symm
  next := by simp [h.next, Move.registrations]
  calls := by simp [h.calls, Move.calls]
  unverified := by
    rw [enter_calls, List.forall_mem_append]
    exact ⟨h.unverified, by simp⟩

/-- **One move**: the book then holds what the moves with this one lead to. -/
theorem step (h : b.Meets saturate ms) {m : Move}
    (hd : (Move.registrations ms).Pairwise Registration.Disjoint)
    (hm : m.Lands b ((m.turn saturate).step mode b)) :
    ((m.turn saturate).step mode b).Meets saturate (ms ++ [m]) := by
  cases m with
  | register r =>
    rcases Turn.step_register_cases mode saturate r.operation r.matcher r.outcome r.times b with
      ⟨-, -, -, hb⟩ | hb
    · rw [Move.turn, hb]
      exact h.register r
    · simp [Move.Lands, Move.turn, hb] at hm
  | call operation arguments =>
    rcases Book.record_offer saturate operation arguments (h.pairwise hd) with
      ⟨c, hr⟩ | ⟨taker, hr⟩
    · exact absurd hr (hm.not_crashed c)
    · rw [Move.turn, Turn.step_call, hr]
      exact h.call operation arguments taker

/-- **A run of moves**, in which no call suits two registrations. -/
theorem play (h : b.Meets saturate past)
    (hd : (Move.registrations (past ++ ms)).Pairwise Registration.Disjoint)
    (hland : Move.AllLand mode saturate ms b) :
    (Turn.play mode (ms.map (Move.turn saturate)) b).Meets saturate (past ++ ms) := by
  induction ms generalizing past b with
  | nil => rwa [List.append_nil]
  | cons m ms ih =>
    obtain ⟨hm, hland⟩ := hland
    have hpast : (Move.registrations past).Pairwise Registration.Disjoint := by
      rw [Move.registrations_append, List.pairwise_append] at hd
      exact hd.1
    have := ih (h.step hpast hm) (by rwa [List.append_assoc]) hland
    rwa [List.append_assoc] at this

/-- **A run of moves on a new recorder.** -/
theorem run (hd : (Move.registrations ms).Pairwise Registration.Disjoint)
    (hland : Move.AllLand mode saturate ms .empty) :
    (Turn.play mode (ms.map (Move.turn saturate)) .empty).Meets saturate ms :=
  (empty saturate).play hd hland

end Book.Meets
end TestDouble
