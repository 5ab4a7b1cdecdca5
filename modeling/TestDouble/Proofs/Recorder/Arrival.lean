import Mathlib.Data.List.Perm.Basic
import TestDouble.Proofs.Matching.Overlap
import TestDouble.Predicate
import TestDouble.Proofs.Recorder.Accounting
import TestDouble.Proofs.Recorder.Demand
import TestDouble.Proofs.Recorder.Verdict

/-!
# The order of arrival

Calls that arrive in another order may be routed otherwise: which of two expectations takes a call
depends on the counts when it arrives. There are two ways in which it does not. While caps are not
enforced a look-up does not see the counts, so two look-ups can change places
(`Book.routed_comm`). And if a call suits at most one expectation, it is offered to that one or to
nobody, and two offers can change places (`Expectation.offer_comm`). Either way the expectations
that a list of calls leaves do not depend on its order. Since every call that is recorded is counted
by one expectation or is a stray one (`Book.record_balance`), the number of stray calls does not
either. That is `arrival_order_irrelevant`.

While caps are enforced, a matcher that crashes can make the order matter: a call may crash after
another one has filled an expectation that would have taken it (`crash_shows_arrival`).
-/

namespace TestDouble

variable {saturate : Bool} {operation : String} {arguments : List Json}

/-! ### Without caps -/

/-- While caps are not enforced, the count does not matter to a look-up. -/
@[simp] theorem Expectation.accepts_false_consume (e : Expectation) :
    e.consume.accepts false operation arguments = e.accepts false operation arguments := rfl

namespace Book

/-- The expectations after a look-up; after a crash they are as they were. -/
def routed (saturate : Bool) (es : List Expectation) (c : String × List Json) : List Expectation :=
  match route saturate c.1 c.2 es with
  | .ok (_, es) => es
  | .error _ => es

theorem record_expectations (b : Book) (saturate : Bool) (c : String × List Json) :
    (b.record saturate c.1 c.2).2.expectations = routed saturate b.expectations c := by
  unfold record routed
  cases route saturate c.1 c.2 b.expectations <;> rfl

theorem routed_cons (saturate : Bool) (e : Expectation) (rest : List Expectation)
    (c : String × List Json) :
    routed saturate (e :: rest) c =
      match e.accepts saturate c.1 c.2 with
      | .ok true => e.consume :: rest
      | .ok false => e :: routed saturate rest c
      | .error _ => e :: rest := by
  unfold routed
  rw [route]
  cases e.accepts saturate c.1 c.2 with
  | error c => rfl
  | ok accepted =>
    cases accepted with
    | true => rfl
    | false => cases route saturate c.1 c.2 rest <;> rfl

/-- **Two look-ups can change places** while caps are not enforced. -/
theorem routed_comm (es : List Expectation) (c c' : String × List Json) :
    routed false (routed false es c) c' = routed false (routed false es c') c := by
  induction es with
  | nil => rfl
  | cons e rest ih =>
    rw [routed_cons, routed_cons]
    rcases hc : e.accepts false c.1 c.2 with _ | _ | _ <;>
      rcases hc' : e.accepts false c'.1 c'.2 with _ | _ | _ <;>
      simp [routed_cons, hc, hc', ih]

/-- Whether every expectation refuses a call. -/
def refused (saturate : Bool) (es : List Expectation) (c : String × List Json) : Bool :=
  ∀ e ∈ es, e.accepts saturate c.1 c.2 = .ok false

/-- While caps are not enforced, a call is refused after another one if it is before. -/
theorem refused_routed (es : List Expectation) (c c' : String × List Json) :
    refused false (routed false es c) c' = refused false es c' := by
  induction es with
  | nil => rfl
  | cons e rest ih =>
    simp only [refused, decide_eq_decide] at ih ⊢
    rw [routed_cons]
    rcases e.accepts false c.1 c.2 with _ | _ | _ <;>
      simp only [List.forall_mem_cons, Expectation.accepts_false_consume, ih]

end Book

/-! ### Calls that suit at most one expectation -/

namespace Expectation

theorem offer_of_not_suits {e : Expectation} (h : ¬ e.Suits operation arguments) :
    e.offer saturate operation arguments = e := by
  refine if_neg fun he => h ?_
  obtain ⟨ho, -, hm⟩ := accepts_eq_true_iff.mp he
  exact ⟨ho, hm⟩

/-- To an expectation that a call suits it does not matter which call it is. -/
theorem offer_of_suits {e : Expectation} (h : e.Suits operation arguments) :
    e.offer saturate operation arguments =
      if e.isExhausted saturate then e else e.consume := by
  unfold offer
  simp only [accepts_eq_true_iff, h.1, h.2, true_and, and_true]
  cases e.isExhausted saturate <;> rfl

/-- **Two offers can change places.** -/
theorem offer_comm (saturate : Bool) (c c' : String × List Json) (e : Expectation) :
    (e.offer saturate c.1 c.2).offer saturate c'.1 c'.2 =
      (e.offer saturate c'.1 c'.2).offer saturate c.1 c.2 := by
  by_cases hc : e.Suits c.1 c.2
  · by_cases hc' : e.Suits c'.1 c'.2
    · -- the two are offered to it alike, so both sides are two offers of the same call
      rw [offer_of_suits (suits_offer.mpr hc'), offer_of_suits (suits_offer.mpr hc),
        offer_of_suits hc, offer_of_suits hc']
    · rw [offer_of_not_suits hc', offer_of_not_suits (mt suits_offer.mp hc')]
  · rw [offer_of_not_suits hc, offer_of_not_suits (mt suits_offer.mp hc)]

end Expectation

/-! ### Stray calls -/

namespace Book

/-- A call is stray if it is entered as nobody's. -/
theorem strayCalls_enter (b : Book) (taker : Option Nat) (es : List Expectation) :
    (b.enter operation arguments taker es).strayCalls =
      b.strayCalls ++ if taker = none then [.unexpectedCall operation arguments] else [] := by
  cases taker <;> simp [strayCalls, RecordedCall.isAccountedFor, RecordedCall.unexpected]

/-- The number of calls that have been taken or are stray. -/
def settled (b : Book) : Nat := (b.expectations.map (·.consumed)).sum + b.strayCalls.length

/-- **A call that is recorded is taken or stray**, and not both. -/
theorem record_settled {b : Book}
    (h : (Move.call operation arguments).Lands b (b.record saturate operation arguments).2) :
    (b.record saturate operation arguments).2.settled = b.settled + 1 := by
  rcases b.record_cases saturate operation arguments with
    ⟨c, hr⟩ | ⟨-, hr⟩ | ⟨l, e, r, hes, -, -, hr⟩
  · exact absurd hr (h.not_crashed c)
  · simp [hr, settled, strayCalls_enter]
    omega
  · simp [hr, settled, strayCalls_enter, hes]
    omega

/-- The calls that every expectation refuses are stray. -/
theorem record_strayCalls (b : Book) (saturate : Bool) (c : String × List Json) :
    (b.record saturate c.1 c.2).2.strayCalls =
      b.strayCalls ++ if refused saturate b.expectations c then [.unexpectedCall c.1 c.2] else [] := by
  obtain ⟨new, hcalls, hnew⟩ := Turn.step_calls .strict b (t := .call saturate c.1 c.2) (by simp)
  rw [Turn.step_call] at hcalls
  rw [strayCalls, hcalls, List.filter_append, hnew, List.map_append, Turn.leaves, refused]
  congr 1
  · simp [strayCalls, Turn.vouches]
  · simp only [decide_eq_true_eq]
    split_ifs <;> rfl

end Book

/-! ### Calls one after another -/

namespace Turn

variable {mode : Mode}

/-- Calls made one after another. -/
def callEach (saturate : Bool) (cs : List (String × List Json)) : List Turn :=
  cs.map fun c => .call saturate c.1 c.2

variable {b : Book}

/-- **Calls while caps are not enforced**: each is looked up as if it were the first. -/
theorem play_uncapped (mode : Mode) (cs : List (String × List Json)) (b : Book) :
    (play mode (callEach false cs) b).expectations = cs.foldl (Book.routed false) b.expectations ∧
      (play mode (callEach false cs) b).strayCalls =
        b.strayCalls ++
          (cs.filter (Book.refused false b.expectations)).map fun c => .unexpectedCall c.1 c.2 := by
  induction cs generalizing b with
  | nil => exact ⟨rfl, by simp [callEach]⟩
  | cons c cs ih =>
    obtain ⟨hes, hstrays⟩ := ih ((call false c.1 c.2).step mode b)
    rw [step_call, b.record_expectations] at hes
    -- the first call does not change which of the others are refused
    have hrefused : Book.refused false (Book.routed false b.expectations c) =
        Book.refused false b.expectations := funext (Book.refused_routed b.expectations c)
    refine ⟨hes, hstrays.trans ?_⟩
    rw [step_call, b.record_strayCalls, b.record_expectations, hrefused, List.append_assoc,
      List.filter_cons]
    cases Book.refused false b.expectations c <;> rfl

/-- **Calls that suit at most one expectation each** are offered to it one after another, and each
is taken or stray. -/
theorem play_disjoint (mode : Mode) {cs : List (String × List Json)}
    (hd : b.expectations.Pairwise Expectation.Disjoint)
    (hland : Move.AllLand mode saturate (cs.map .ofCall) b) :
    (play mode (callEach saturate cs) b).expectations =
        b.expectations.map (fun e => cs.foldl (fun e c => e.offer saturate c.1 c.2) e) ∧
      (play mode (callEach saturate cs) b).settled = b.settled + cs.length := by
  induction cs generalizing b with
  | nil => exact ⟨by simp [callEach], rfl⟩
  | cons c cs ih =>
    obtain ⟨hc, hland⟩ := hland
    obtain ⟨hes, hsettled⟩ := ih (Book.record_disjoint hd saturate c.1 c.2) hland
    rcases b.record_offer saturate c.1 c.2 hd with ⟨crash, hr⟩ | ⟨taker, hr⟩
    · exact absurd hr (hc.not_crashed crash)
    · refine ⟨hes.trans ?_, hsettled.trans ?_⟩
      · rw [hr, Book.enter_expectations, List.map_map]
        rfl
      · rw [Book.record_settled hc, List.length_cons, Nat.add_assoc, Nat.add_comm 1]

variable {cs cs' : List (String × List Json)}

/-- While caps are not enforced, calls leave the same expectations in any order, and the same stray
calls up to the order. -/
theorem play_uncapped_perm (mode : Mode) (b : Book) (hperm : cs.Perm cs') :
    (play mode (callEach false cs) b).expectations =
        (play mode (callEach false cs') b).expectations ∧
      (play mode (callEach false cs) b).strayCalls.Perm
        (play mode (callEach false cs') b).strayCalls := by
  obtain ⟨hes, hstrays⟩ := play_uncapped mode cs b
  obtain ⟨hes', hstrays'⟩ := play_uncapped mode cs' b
  constructor
  · rw [hes, hes']
    exact hperm.foldl_eq' (fun c _ c' _ es => Book.routed_comm es c c') b.expectations
  · rw [hstrays, hstrays']
    exact ((hperm.filter _).map _).append_left b.strayCalls

/-- If each call suits at most one expectation, calls that are recorded leave the same expectations
in any order, and the same number of stray calls. -/
theorem play_disjoint_perm (mode : Mode) (hperm : cs.Perm cs')
    (hd : b.expectations.Pairwise Expectation.Disjoint)
    (hland : Move.AllLand mode saturate (cs.map .ofCall) b)
    (hland' : Move.AllLand mode saturate (cs'.map .ofCall) b) :
    (play mode (callEach saturate cs) b).expectations =
        (play mode (callEach saturate cs') b).expectations ∧
      (play mode (callEach saturate cs) b).strayCalls.length =
        (play mode (callEach saturate cs') b).strayCalls.length := by
  obtain ⟨hes, hsettled⟩ := play_disjoint mode hd hland
  obtain ⟨hes', hsettled'⟩ := play_disjoint mode hd hland'
  have hsame : (play mode (callEach saturate cs) b).expectations =
      (play mode (callEach saturate cs') b).expectations := by
    rw [hes, hes']
    refine List.map_congr_left fun e _ => ?_
    exact hperm.foldl_eq' (fun c _ c' _ e => Expectation.offer_comm saturate c c' e) e
  refine ⟨hsame, ?_⟩
  rw [Book.settled, hsame] at hsettled
  rw [Book.settled, ← hperm.length_eq] at hsettled'
  omega

end Turn

/-- **The order of arrival does not matter** in two cases. Take a recorder whose outcomes ask
nothing of it, and a list of calls and a permutation of it, made with one handle. If caps are not
enforced, or if no call suits two expectations and the look-ups of all calls end in both orders,
then both orders leave the same expectations with the same counts, so the same verdict on them, and
as many calls that are reported as unaccounted for. If caps are not enforced these calls are the
same, up to the order. -/
theorem arrival_order_irrelevant (mode : Mode) (depth : Nat) (saturate : Bool) (d : Desk)
    (hsilent : d.book.Silent) (cs cs' : List (String × List Json)) (hperm : cs.Perm cs')
    (h : saturate = false ∨ d.book.expectations.Pairwise Expectation.Disjoint ∧
      Move.AllLand mode saturate (cs.map .ofCall) d.book ∧
      Move.AllLand mode saturate (cs'.map .ofCall) d.book) :
    let after := fun cs : List (String × List Json) =>
      Recorder.serveEach mode depth (cs.map fun c => ⟨_, .invoke saturate c.1 c.2⟩) d
    (after cs).book.expectations = (after cs').book.expectations ∧
      (Recorder.serve mode depth .verifyAll (after cs)).1 =
        (Recorder.serve mode depth .verifyAll (after cs')).1 ∧
      (∀ cs, (Recorder.serve mode depth .verifyNoOtherCalls (after cs)).1 =
        .ok (TestError.collect (after cs).book.strayCalls)) ∧
      (after cs).book.strayCalls.length = (after cs').book.strayCalls.length ∧
      (saturate = false → (after cs).book.strayCalls.Perm (after cs').book.strayCalls) := by
  intro after
  have hafter : ∀ cs, (after cs).book = Turn.play mode (Turn.callEach saturate cs) d.book := by
    intro cs
    have hturns : ∀ t ∈ Turn.callEach saturate cs, t.Silent :=
      List.forall_mem_map.mpr fun _ _ => trivial
    rw [← Recorder.serveEach_request_book depth hturns hsilent, Turn.callEach, List.map_map]
    rfl
  have hverdicts : (after cs).book.expectations = (after cs').book.expectations ∧
      (after cs).book.strayCalls.length = (after cs').book.strayCalls.length ∧
      (saturate = false → (after cs).book.strayCalls.Perm (after cs').book.strayCalls) := by
    rw [hafter, hafter]
    rcases h with rfl | ⟨hd, hland, hland'⟩
    · obtain ⟨hes, hstrays⟩ := Turn.play_uncapped_perm mode d.book hperm
      exact ⟨hes, hstrays.length_eq, fun _ => hstrays⟩
    · obtain ⟨hes, hlength⟩ := Turn.play_disjoint_perm mode hperm hd hland hland'
      refine ⟨hes, hlength, ?_⟩
      rintro rfl
      exact (Turn.play_uncapped_perm mode d.book hperm).2
  obtain ⟨hes, hlength, hstrays⟩ := hverdicts
  refine ⟨hes, ?_, fun cs => Recorder.serve_verifyNoOtherCalls _, hlength, hstrays⟩
  rw [Recorder.serve_verifyAll, Recorder.serve_verifyAll, Book.violations, Book.violations, hes]

/-- An expectation of one call with an argument, and one of any number without. -/
def Turn.oneEach : List Turn :=
  [.register true "op" ⟨[.any]⟩ (.returns .null) .once,
    .register true "op" ⟨[]⟩ (.returns .null) .anyNumber]

/-- Two calls with an argument are one too many. While the cap is enforced it is the later one that
is stray, so which one it is depends on the order; otherwise none is. -/
theorem arrival_order_irrelevant_oneEach :
    let d := Desk.ofBook (Turn.play .strict Turn.oneEach .empty)
    let cs : List (String × List Json) := [("op", [.int 1]), ("op", []), ("op", [.int 2])]
    let after := fun saturate (cs : List (String × List Json)) =>
      (Recorder.serveEach .strict 0 (cs.map fun c => ⟨_, .invoke saturate c.1 c.2⟩) d).book
    (after true cs).strayCalls = [.unexpectedCall "op" [.int 2]] ∧
      (after true cs.reverse).strayCalls.length = 1 ∧
      (after true cs.reverse).expectations.map (·.consumed) = [1, 1] ∧
      (after false cs.reverse).expectations.map (·.consumed) = [2, 1] ∧
      (after false cs).strayCalls.Perm (after false cs.reverse).strayCalls := by
  intro d cs after
  have hturns : ∀ t ∈ Turn.oneEach, t.Silent := by
    simp only [Turn.oneEach, List.forall_mem_cons]
    exact ⟨fun _ _ => ⟨_, rfl⟩, fun _ _ => ⟨_, rfl⟩, by simp⟩
  have hsilent : d.book.Silent :=
    Turn.play_silent .strict hturns .empty
  have hdisjoint : d.book.expectations.Pairwise Expectation.Disjoint := by
    refine List.pairwise_pair.mpr ?_
    rintro operation arguments ⟨⟨-, hone⟩, -, hnone⟩
    cases arguments with
    | nil => cases hone
    | cons v arguments => cases hnone
  obtain ⟨hes, -, -, hlength, -⟩ := arrival_order_irrelevant .strict 0 true d hsilent cs cs.reverse
    cs.reverse_perm.symm (.inr ⟨hdisjoint, ⟨rfl, rfl, rfl, trivial⟩, ⟨rfl, rfl, rfl, trivial⟩⟩)
  obtain ⟨hes', -, -, -, hstrays⟩ := arrival_order_irrelevant .strict 0 false d hsilent cs
    cs.reverse cs.reverse_perm.symm (.inl rfl)
  exact ⟨rfl, hlength.symm.trans rfl, (congrArg _ hes.symm).trans rfl,
    (congrArg _ hes'.symm).trans rfl, hstrays rfl⟩

/-- An expectation of one call, and one whose second predicate crashes if the first argument is
right. -/
def Turn.guarded : List Turn :=
  [.register true "op" ⟨[.any, .any]⟩ (.returns .null) .once,
    .register true "op" ⟨[.exact (.int 1), .predicate "crash" Predicate.crash]⟩ (.returns .null)
      .anyNumber]

/-- **A crash shows the order of arrival.** No call suits both expectations. Of two calls the first
one is taken. If the second one is refused by the other expectation it is stray; if it gets to the
predicate that crashes it is not recorded, and nothing is reported. -/
theorem crash_shows_arrival :
    let d := Desk.ofBook (Turn.play .lenient Turn.guarded .empty)
    let refused : String × List Json := ("op", [.int 0, .int 0])
    let crashing : String × List Json := ("op", [.int 1, .int 0])
    let after := fun cs : List (String × List Json) =>
      Recorder.serveEach .lenient 0 (cs.map fun c => ⟨_, .invoke true c.1 c.2⟩) d
    d.book.calls = [] ∧ d.book.Silent ∧ d.book.expectations.Pairwise Expectation.Disjoint ∧
      (after [crashing, refused]).book.strayCalls = [.unexpectedCall "op" [.int 0, .int 0]] ∧
      (after [refused, crashing]).book.strayCalls = [] ∧
      (Recorder.serve .lenient 0 .verifyNoOtherCalls (after [crashing, refused])).1 =
        .ok (.error (.unexpectedCall "op" [.int 0, .int 0])) ∧
      (Recorder.serve .lenient 0 .verifyNoOtherCalls (after [refused, crashing])).1 =
        .ok (.ok ()) := by
  intro d refused crashing after
  have hturns : ∀ t ∈ Turn.guarded, t.Silent := by
    simp only [Turn.guarded, List.forall_mem_cons]
    exact ⟨fun _ _ => ⟨_, rfl⟩, fun _ _ => ⟨_, rfl⟩, by simp⟩
  refine ⟨rfl, ?_, ?_, rfl, rfl, rfl, rfl⟩
  · exact Turn.play_silent .lenient hturns .empty
  · -- what crashes on the second argument accepts nothing
    refine List.pairwise_pair.mpr ?_
    rintro operation arguments ⟨-, -, hcrash⟩
    obtain ⟨hlength, hcrash⟩ := ArgumentMatcher.accepts_eq_true_iff.mp hcrash
    obtain ⟨v, w, rfl⟩ := List.length_eq_two.mp hlength.symm
    obtain ⟨-, hcrash⟩ := ArgumentMatcher.acceptsAll_cons.mp hcrash
    cases (ArgumentMatcher.acceptsAll_cons.mp hcrash).1

end TestDouble
