import TestDouble.Proofs.Matching.Overlap
import TestDouble.Proofs.Recorder.Demand
import TestDouble.Proofs.Recorder.Separation
import TestDouble.Proofs.Recorder.Verdict

/-!
# The order of registrations

A strict recorder that does not enforce caps takes a list of registrations if no two of them that
are for one operation overlap (`Recorder.accepted_iff`). This has no direction, so every
permutation of a list is taken if the list is. If moreover predicates can be told apart from each
other (`Book.Discernible`) a call suits at most one expectation, and it does not matter where that
one stands: on books that hold the same expectations in another order and under other ids
(`Book.Reordered`) calls get the same replies, and leave such books again. That the order of
registrations does not matter is `registration_order_irrelevant`.

A predicate that crashes can make the order matter: the look-up of a call ends at the first
expectation that takes it, and one before it may crash where one after it does not get to
(`crash_shows_order`).
-/

namespace TestDouble

/-! ### Which lists of registrations are accepted -/

namespace Registration

/-- The request to register, on a recorder that does not enforce caps. -/
def request (r : Registration) : Request .registration :=
  .register false r.operation r.matcher r.outcome r.times

/-- The two are for different operations, or their matchers do not overlap. -/
def Apart (r r' : Registration) : Prop :=
  r.operation = r'.operation → r.matcher.overlaps r'.matcher = .ok false

/-- If the two are for one operation, it can be said whether their matchers overlap: no predicate
crashes. -/
def Decided (r r' : Registration) : Prop :=
  r.operation = r'.operation → ∃ v, r.matcher.overlaps r'.matcher = .ok v

instance (r r' : Registration) : Decidable (r.Apart r') :=
  inferInstanceAs (Decidable (_ → _))

instance : Std.Symm Apart :=
  ⟨fun r r' h ho => by rw [r'.matcher.overlaps_comm]; exact h ho.symm⟩

instance : Std.Symm Decided :=
  ⟨fun r r' h ho => by rw [r'.matcher.overlaps_comm]; exact h ho.symm⟩

end Registration

namespace Expectation

/-- What was registered. -/
def registration (e : Expectation) : Registration := ⟨e.operation, e.matcher, e.outcome, e.times⟩

/-- The expectation without its id. -/
def anonymous (e : Expectation) : Expectation := e.renumber fun _ => 0

theorem shadows_eq_false_iff_apart {e : Expectation} {r : Registration} :
    e.shadows false r.operation r.matcher = .ok false ↔ e.registration.Apart r := by
  rw [shadows_eq_false_iff]
  exact ⟨fun h ho => h ho rfl, fun h ho _ => h ho⟩

end Expectation

namespace Recorder

variable {d : Desk}

/-- **A registration on a strict recorder** that does not enforce caps is accepted if it is apart
from all that were registered before; otherwise nothing changes. -/
theorem register_apart (depth : Nat) (r : Registration) (d : Desk) :
    ((∀ e ∈ d.book.expectations, e.registration.Apart r) ∧
        (∃ id, (serve .strict depth r.request d).1 = .ok (.ok id)) ∧
        (serve .strict depth r.request d).2.book.expectations =
          d.book.expectations ++ [r.expectation d.book.nextExpectation 0]) ∨
      (¬ ∀ e ∈ d.book.expectations, e.registration.Apart r) ∧
        (∀ id, (serve .strict depth r.request d).1 ≠ .ok (.ok id)) ∧
        (serve .strict depth r.request d).2 = d := by
  have hapart : Book.shadowOf false r.operation r.matcher d.book.expectations = .ok none ↔
      ∀ e ∈ d.book.expectations, e.registration.Apart r := by
    simp only [Book.shadowOf_eq_none_iff, Expectation.shadows_eq_false_iff_apart]
  rw [Registration.request, serve, ← hapart]
  rcases register_cases .strict false r.operation r.matcher r.outcome r.times d with
    ⟨shadow, hs, hnone, hreply, hb⟩ | ⟨hreply, hd⟩
  · obtain rfl : shadow = none := hnone rfl
    exact .inl ⟨hs, ⟨_, hreply⟩, by rw [hb]; rfl⟩
  · refine .inr ⟨fun hs => hreply d.book.nextExpectation ?_, hreply, hd⟩
    simp [register, hs]

/-- Where no comparison crashes, what is not accepted is rejected as ambiguous. -/
theorem register_decided (depth : Nat) {r : Registration}
    (h : ∀ e ∈ d.book.expectations, e.registration.Decided r) :
    (∃ id, (serve .strict depth r.request d).1 = .ok (.ok id)) ∨
      ∃ o existing registered, (serve .strict depth r.request d).1 =
        .ok (.error (.ambiguous o existing registered)) := by
  rw [Registration.request, serve, register]
  cases hs : Book.shadowOf false r.operation r.matcher d.book.expectations with
  | error c =>
    obtain ⟨e, he, hcrash⟩ := Book.shadowOf_error hs
    by_cases ho : e.operation = r.operation
    · obtain ⟨v, hv⟩ := h e he ho
      rw [Expectation.shadows, if_neg (not_not.mpr ho)] at hcrash
      exact absurd (hv.symm.trans hcrash) (by simp)
    · rw [Expectation.shadows_of_ne ho] at hcrash
      cases hcrash
  | ok shadow =>
    cases shadow with
    | none => exact .inl ⟨_, rfl⟩
    | some existing => exact .inr ⟨_, _, _, rfl⟩

/-- Whether every request to register gets an id. -/
def Accepted (replies : List (Except Stop (Except TestError Nat))) : Prop :=
  ∀ reply ∈ replies, ∃ id, reply = .ok (.ok id)

/-- Whether a request to register is refused because an earlier expectation overlaps. -/
def Ambiguous (replies : List (Except Stop (Except TestError Nat))) : Prop :=
  ∃ o existing registered, .ok (.error (.ambiguous o existing registered)) ∈ replies

/-- The replies to some registrations, made one after another on a strict recorder that does not
enforce caps. -/
def registering (depth : Nat) (rs : List Registration) (d : Desk) :
    List (Except Stop (Except TestError Nat)) :=
  replies .strict depth (rs.map Registration.request) d

/-- The desk after some registrations. -/
def registered (depth : Nat) (rs : List Registration) (d : Desk) : Desk :=
  serveEach .strict depth (rs.map fun r => ⟨_, r.request⟩) d

/-- **A list of registrations is accepted** if they are apart from each other. -/
theorem accepted_iff (depth : Nat) (rs : List Registration)
    (hd : (d.book.expectations.map (·.registration)).Pairwise Registration.Apart) :
    Accepted (registering depth rs d) ↔
      (d.book.expectations.map (·.registration) ++ rs).Pairwise Registration.Apart := by
  induction rs generalizing d with
  | nil => simpa [Accepted, registering, replies] using hd
  | cons r rs ih =>
    rw [registering, List.map_cons, replies, Accepted, List.forall_mem_cons, List.append_cons]
    rcases register_apart depth r d with ⟨hapart, hreply, hes⟩ | ⟨hapart, hreply, -⟩
    · have hmap : (serve .strict depth r.request d).2.book.expectations.map (·.registration) =
          d.book.expectations.map (·.registration) ++ [r] := by
        rw [hes, List.map_append]
        rfl
      have hstep : (d.book.expectations.map (·.registration) ++ [r]).Pairwise
          Registration.Apart := by
        rw [List.pairwise_append]
        exact ⟨hd, List.pairwise_singleton _ _, by simpa using hapart⟩
      have hrest := ih (hmap ▸ hstep)
      rw [hmap] at hrest
      exact ⟨fun h => hrest.mp h.2, fun h => ⟨hreply, hrest.mpr h⟩⟩
    · constructor
      · rintro ⟨⟨id, hid⟩, -⟩
        exact absurd hid (hreply id)
      · intro h
        rw [List.pairwise_append, List.pairwise_append] at h
        exact absurd (by simpa using h.1.2.2) hapart

/-- Where no comparison crashes, a list that is not accepted has an entry that is rejected as
ambiguous. -/
theorem accepted_or_ambiguous (depth : Nat) (rs : List Registration)
    (h : (d.book.expectations.map (·.registration) ++ rs).Pairwise Registration.Decided) :
    Accepted (registering depth rs d) ∨ Ambiguous (registering depth rs d) := by
  induction rs generalizing d with
  | nil => exact .inl (by simp [Accepted, registering, replies])
  | cons r rs ih =>
    have hr : ∀ e ∈ d.book.expectations, e.registration.Decided r := by
      rw [List.pairwise_append] at h
      intro e he
      exact h.2.2 _ (List.mem_map_of_mem he) r List.mem_cons_self
    rw [registering, List.map_cons, replies]
    rcases register_decided depth hr with hreply | ⟨o, existing, registered, hreply⟩
    · rcases register_apart depth r d with ⟨-, -, hes⟩ | ⟨-, hno, -⟩
      · have hrest : ((serve .strict depth r.request d).2.book.expectations.map
            (·.registration) ++ rs).Pairwise Registration.Decided := by
          rw [hes, List.map_append, List.append_assoc]
          exact h
        rcases ih hrest with haccepted | ⟨o, existing, registered, hmem⟩
        · exact .inl (List.forall_mem_cons.mpr ⟨hreply, haccepted⟩)
        · exact .inr ⟨o, existing, registered, List.mem_cons_of_mem _ hmem⟩
      · obtain ⟨id, hid⟩ := hreply
        exact absurd hid (hno id)
    · exact .inr ⟨o, existing, registered, List.mem_cons.mpr (.inl hreply.symm)⟩

/-- An accepted list is registered as it is. -/
theorem registered_anonymous (depth : Nat) (rs : List Registration)
    (h : Accepted (registering depth rs d)) :
    (registered depth rs d).book.expectations.map Expectation.anonymous =
      d.book.expectations.map Expectation.anonymous ++ rs.map (·.expectation 0 0) := by
  induction rs generalizing d with
  | nil => exact (List.append_nil _).symm
  | cons r rs ih =>
    rw [registering, List.map_cons, replies, Accepted, List.forall_mem_cons] at h
    obtain ⟨⟨id, hid⟩, hrest⟩ := h
    rcases register_apart depth r d with ⟨-, -, hes⟩ | ⟨-, hno, -⟩
    · refine (ih hrest).trans ?_
      rw [hes, List.map_append, List.append_assoc]
      rfl
    · exact absurd hid (hno id)

end Recorder

/-! ### States in which a call suits at most one expectation -/

namespace Book

/-- The expectations are apart from each other. -/
def Separate (b : Book) : Prop :=
  b.expectations.Pairwise fun x y => x.registration.Apart y.registration

/-- What expectations of one operation accept can be told apart: at no position do two of them have
a predicate, and predicates answer alike on equal values. -/
structure Discernible (b : Book) : Prop where
  comparable : b.expectations.Pairwise fun x y =>
    x.operation = y.operation → x.matcher.Comparable y.matcher
  respectful : ∀ e ∈ b.expectations, e.matcher.Respectful

variable {b : Book}

/-- **If they can be told apart, a call suits only one of them.** -/
theorem Separate.disjoint (h : b.Separate) (hd : b.Discernible) :
    b.expectations.Pairwise Expectation.Disjoint := by
  refine (h.and hd.comparable).imp_of_mem ?_
  rintro x y hx hy ⟨hapart, hcomparable⟩ operation arguments ⟨⟨hxo, hxm⟩, hyo, hym⟩
  have ho : x.operation = y.operation := hxo.trans hyo.symm
  have hoverlap := ArgumentMatcher.overlaps_of_accepts (hcomparable ho) (hd.respectful x hx)
    (hd.respectful y hy) hxm hym
  exact absurd (hoverlap.symm.trans (hapart ho)) (by simp)

end Book

/-- Whether a turn is taken with a handle that does not enforce caps, if it registers something. -/
def Turn.Uncapped : Turn → Prop
  | register saturate .. => saturate = false
  | call .. => True
  | verify .. => True
  | reset => True

/-- **A strict recorder keeps its expectations apart from each other.** -/
theorem Turn.step_separate {b : Book} {t : Turn} (ht : t.Uncapped) (h : b.Separate) :
    (t.step .strict b).Separate := by
  refine step_pairwise .strict (fun _ _ hxy => hxy) (fun _ _ hxy => hxy) ?_ h
  rintro saturate operation matcher outcome times rfl hshadows x hx ho
  obtain rfl : saturate = false := ht
  exact Expectation.shadows_eq_false_iff.mp (hshadows rfl x hx) ho rfl

/-- A call that suits at most one expectation is accepted by at most one. -/
theorem Expectation.countP_accepts_le_one {es : List Expectation} (h : es.Pairwise Disjoint)
    (saturate : Bool) (operation : String) (arguments : List Json) :
    es.countP (fun e => e.accepts saturate operation arguments = .ok true) ≤ 1 := by
  induction es with
  | nil => exact Nat.zero_le 1
  | cons e rest ih =>
    rw [List.pairwise_cons] at h
    by_cases he : e.accepts saturate operation arguments = .ok true
    · obtain ⟨ho, -, hm⟩ := accepts_eq_true_iff.mp he
      have hrest : rest.countP (fun e => e.accepts saturate operation arguments = .ok true) = 0 := by
        rw [List.countP_eq_zero]
        intro x hx hxa
        obtain ⟨hxo, -, hxm⟩ := accepts_eq_true_iff.mp (of_decide_eq_true hxa)
        exact h.1 x hx operation arguments ⟨⟨ho, hm⟩, hxo, hxm⟩
      rw [List.countP_cons, hrest]
      split_ifs <;> omega
    · rw [List.countP_cons_of_neg (by simpa using he)]
      exact ih h.2

/-! ### Books with the same expectations in another order -/

namespace Expectation

variable {saturate : Bool} {operation : String} {arguments : List Json}

@[simp] theorem accepts_anonymous (e : Expectation) :
    e.anonymous.accepts saturate operation arguments = e.accepts saturate operation arguments :=
  (renumber_relabels _).accepts e

@[simp] theorem anonymous_offer (e : Expectation) :
    (e.offer saturate operation arguments).anonymous =
      e.anonymous.offer saturate operation arguments := by
  unfold offer
  rw [accepts_anonymous]
  split_ifs <;> rfl

/-- Expectations that differ in their ids. -/
theorem eq_renumber_of_anonymous {x y : Expectation} (h : x.anonymous = y.anonymous) :
    y = x.renumber fun _ => y.id := by
  cases x
  cases y
  simp_all [anonymous, renumber]

end Expectation

/-- The books hold the same expectations with the same counts, in another order and under other
ids. -/
def Book.Reordered (b b' : Book) : Prop :=
  (b.expectations.map Expectation.anonymous).Perm (b'.expectations.map Expectation.anonymous)

namespace Book.Reordered

variable {b b' : Book} {saturate : Bool} {operation : String} {arguments : List Json}

theorem symm (h : b.Reordered b') : b'.Reordered b := List.Perm.symm h

/-- An expectation is found again in the other book. -/
theorem exists_mem (h : b.Reordered b') {e : Expectation} (he : e ∈ b.expectations) :
    ∃ x ∈ b'.expectations, x.anonymous = e.anonymous :=
  List.mem_map.mp (h.subset (List.mem_map_of_mem he))

theorem silent (h : b.Reordered b') (hs : b.Silent) : b'.Silent := by
  intro e he
  obtain ⟨x, hx, heq⟩ := h.symm.exists_mem he
  rw [Expectation.eq_renumber_of_anonymous heq]
  exact hs x hx

theorem disjoint (h : b.Reordered b') (hd : b.expectations.Pairwise Expectation.Disjoint) :
    b'.expectations.Pairwise Expectation.Disjoint := by
  have hd' : (b.expectations.map Expectation.anonymous).Pairwise Expectation.Disjoint :=
    List.pairwise_map.mpr hd
  have hperm := h.pairwise hd' fun hxy => symm_of Expectation.Disjoint hxy
  rwa [List.pairwise_map] at hperm

/-- A call that every expectation of the one book refuses is refused by those of the other. -/
theorem refuses (h : b.Reordered b')
    (hall : ∀ e ∈ b.expectations, e.accepts saturate operation arguments = .ok false) :
    ∀ e ∈ b'.expectations, e.accepts saturate operation arguments = .ok false := by
  intro e he
  obtain ⟨x, hx, heq⟩ := h.symm.exists_mem he
  rw [← e.accepts_anonymous, ← heq, x.accepts_anonymous]
  exact hall x hx

/-- **Violations are the same up to the order.** -/
theorem violations (h : b.Reordered b') : b.violations.Perm b'.violations := by
  have hviolations : ∀ b : Book, b.violations =
      ((b.expectations.map Expectation.anonymous).filter fun e => !e.isSatisfied).map
        Expectation.violation := by
    intro b
    rw [List.filter_map, List.map_map]
    rfl
  rw [hviolations b, hviolations b']
  exact (h.filter _).map _

/-- **A call that is recorded in both books** is taken by the same expectation, up to its id. -/
theorem hit (h : b.Reordered b') (hd : b.expectations.Pairwise Expectation.Disjoint)
    (hland : (Move.call operation arguments).Lands b (b.record saturate operation arguments).2)
    (hland' : (Move.call operation arguments).Lands b' (b'.record saturate operation arguments).2) :
    ∃ f, (b'.record saturate operation arguments).1 =
      (b.record saturate operation arguments).1.map (Option.map (·.renumber f)) := by
  rcases b.record_cases saturate operation arguments with
    ⟨c, hr⟩ | ⟨hall, hr⟩ | ⟨l, e, r, hes, -, he, hr⟩
  · exact absurd hr (hland.not_crashed c)
  · rw [hr, Book.record_none (h.refuses hall)]
    exact ⟨id, rfl⟩
  · have hmem : e ∈ b.expectations := by simp [hes]
    rcases b'.record_cases saturate operation arguments with
      ⟨c, hr'⟩ | ⟨hall, -⟩ | ⟨l', e', r', hes', -, he', hr'⟩
    · exact absurd hr' (hland'.not_crashed c)
    · rw [h.symm.refuses hall e hmem] at he
      cases he
    · -- what the other book has in place of `e'` suits the call, so it is `e`
      obtain ⟨x, hx, heq⟩ := h.symm.exists_mem (e := e') (by simp [hes'])
      have hxa : x.accepts saturate operation arguments = .ok true := by
        rw [← x.accepts_anonymous, heq, e'.accepts_anonymous, he']
      obtain ⟨ho, -, hm⟩ := Expectation.accepts_eq_true_iff.mp he
      obtain ⟨hxo, -, hxm⟩ := Expectation.accepts_eq_true_iff.mp hxa
      obtain rfl := Expectation.eq_of_suits hd hx hmem ⟨hxo, hxm⟩ ⟨ho, hm⟩
      rw [hr, hr']
      refine ⟨fun _ => e'.id, ?_⟩
      rw [Expectation.eq_renumber_of_anonymous heq]
      rfl

/-- **After a call that is recorded in both books** they hold the same expectations again. -/
theorem record (h : b.Reordered b') (hd : b.expectations.Pairwise Expectation.Disjoint)
    (hland : (Move.call operation arguments).Lands b (b.record saturate operation arguments).2)
    (hland' : (Move.call operation arguments).Lands b' (b'.record saturate operation arguments).2) :
    (b.record saturate operation arguments).2.Reordered
      (b'.record saturate operation arguments).2 := by
  rcases b.record_offer saturate operation arguments hd with ⟨c, hr⟩ | ⟨taker, hr⟩
  · exact absurd hr (hland.not_crashed c)
  rcases b'.record_offer saturate operation arguments (h.disjoint hd) with
    ⟨c, hr'⟩ | ⟨taker', hr'⟩
  · exact absurd hr' (hland'.not_crashed c)
  have hoffer : ∀ es : List Expectation,
      (es.map (Expectation.offer saturate operation arguments)).map Expectation.anonymous =
        (es.map Expectation.anonymous).map (Expectation.offer saturate operation arguments) := by
    intro es
    simp [List.map_map, Function.comp_def]
  rw [hr, hr', Reordered, enter_expectations, enter_expectations, hoffer, hoffer]
  exact h.map _

end Book.Reordered

/-- **Calls that are recorded in both books** get the same replies, and leave books that hold the
same expectations. -/
theorem Recorder.replies_reordered (mode : Mode) (depth : Nat) (saturate : Bool)
    {cs : List (String × List Json)} {d e : Desk} (h : d.book.Reordered e.book)
    (hd : d.book.expectations.Pairwise Expectation.Disjoint) (hsilent : d.book.Silent)
    (hland : Move.AllLand mode saturate (cs.map .ofCall) d.book)
    (hland' : Move.AllLand mode saturate (cs.map .ofCall) e.book) :
    replies mode (depth + 1) (cs.map fun c => .invoke saturate c.1 c.2) d =
        replies mode (depth + 1) (cs.map fun c => .invoke saturate c.1 c.2) e ∧
      (serveEach mode (depth + 1) (cs.map fun c => ⟨_, .invoke saturate c.1 c.2⟩) d).book.Reordered
        (serveEach mode (depth + 1) (cs.map fun c => ⟨_, .invoke saturate c.1 c.2⟩) e).book := by
  induction cs generalizing d e with
  | nil => exact ⟨rfl, h⟩
  | cons c cs ih =>
    obtain ⟨hc, hland⟩ := hland
    obtain ⟨hc', hland'⟩ := hland'
    obtain ⟨f, hhit⟩ := h.hit hd hc hc'
    have hrest := ih (d := (serve mode (depth + 1) (.invoke saturate c.1 c.2) d).2)
      (e := (serve mode (depth + 1) (.invoke saturate c.1 c.2) e).2)
    rw [serve_invoke_book (depth + 1) saturate c.1 hsilent,
      serve_invoke_book (depth + 1) saturate c.1 (h.silent hsilent)] at hrest
    obtain ⟨hreplies, hbooks⟩ := hrest (h.record hd hc hc') (Book.record_disjoint hd _ _ _)
      (hsilent.record saturate c.1 c.2) hland hland'
    refine ⟨?_, hbooks⟩
    rw [List.map_cons, replies, replies, hreplies, invoke_congr_of_hit hsilent hhit]

/-! ### Registrations on a new recorder -/

namespace Recorder

variable {start : Desk} {rs rs' : List Registration} {depth : Nat}

theorem accepted_iff_apart (hstart : start.book = .empty) (depth : Nat) (rs : List Registration) :
    Accepted (registering depth rs start) ↔ rs.Pairwise Registration.Apart := by
  have h := accepted_iff (d := start) depth rs (hstart ▸ List.Pairwise.nil)
  rwa [hstart] at h

theorem accepted_perm (hstart : start.book = .empty) (depth : Nat) (hperm : rs.Perm rs') :
    Accepted (registering depth rs' start) ↔ Accepted (registering depth rs start) := by
  rw [accepted_iff_apart hstart, accepted_iff_apart hstart]
  exact (hperm.pairwise_iff fun hrr => symm_of Registration.Apart hrr).symm

/-- Nothing is registered but the list. -/
theorem registered_eq (hstart : start.book = .empty) (h : Accepted (registering depth rs start)) :
    (registered depth rs start).book.expectations.map Expectation.anonymous =
      rs.map (·.expectation 0 0) := by
  rw [registered_anonymous depth rs h, hstart]
  rfl

theorem registered_separate (hstart : start.book = .empty)
    (h : Accepted (registering depth rs start)) : (registered depth rs start).book.Separate := by
  have hpairwise : ((registered depth rs start).book.expectations.map
      Expectation.anonymous).Pairwise fun x y => x.registration.Apart y.registration := by
    rw [registered_eq hstart h, List.pairwise_map]
    exact (accepted_iff_apart hstart depth rs).mp h
  rwa [List.pairwise_map] at hpairwise

/-- What is registered afterwards is on the list. -/
theorem registration_mem (hstart : start.book = .empty) (h : Accepted (registering depth rs start))
    {e : Expectation} (he : e ∈ (registered depth rs start).book.expectations) :
    e.registration ∈ rs := by
  have hmem : e.anonymous ∈ rs.map (·.expectation 0 0) :=
    registered_eq hstart h ▸ List.mem_map_of_mem he
  obtain ⟨r, hr, heq⟩ := List.mem_map.mp hmem
  have hsame : r = e.registration := congrArg Expectation.registration heq
  exact hsame ▸ hr

theorem registered_silent (hstart : start.book = .empty)
    (h : Accepted (registering depth rs start)) (hsilent : ∀ r ∈ rs, r.outcome.Silent) :
    (registered depth rs start).book.Silent :=
  fun _ he => hsilent _ (registration_mem hstart h he)

theorem registered_reordered (hstart : start.book = .empty) (hperm : rs.Perm rs')
    (h : Accepted (registering depth rs start)) :
    (registered depth rs start).book.Reordered (registered depth rs' start).book := by
  have h' := (accepted_perm hstart depth hperm).mpr h
  rw [Book.Reordered, registered_eq hstart h, registered_eq hstart h']
  exact hperm.map _

end Recorder

/-- **The order of registrations does not matter**, on a strict recorder that does not enforce caps.
Take a list of registrations and a permutation of it. It is accepted if and only if its entries are
apart from each other, and then the permutation is; if no comparison of two entries crashes, both
are accepted or each has an entry that is rejected as ambiguous. After an accepted list, every call
is accepted by at most one expectation in every later state whose expectations can be told apart.
And if those registered can be told apart and ask nothing of the recorder, then calls whose look-ups
end on both recorders get the same replies, leave the same expectations with the same counts up to
the order, and so the same violations. -/
theorem registration_order_irrelevant (depth : Nat) (diagnostics : List Diagnostic)
    (reported : Option TestError) (rs rs' : List Registration) (hperm : rs.Perm rs') :
    let start : Desk := ⟨.empty, diagnostics, reported⟩
    let accepted := fun rs => Recorder.Accepted (Recorder.registering (depth + 1) rs start)
    let ambiguous := fun rs => Recorder.Ambiguous (Recorder.registering (depth + 1) rs start)
    let d := Recorder.registered (depth + 1) rs start
    let d' := Recorder.registered (depth + 1) rs' start
    (accepted rs ↔ rs.Pairwise Registration.Apart) ∧ (accepted rs' ↔ accepted rs) ∧
    (rs.Pairwise Registration.Decided →
      accepted rs ∧ accepted rs' ∨ ambiguous rs ∧ ambiguous rs') ∧
    (accepted rs → ∀ ts : List Turn, (∀ t ∈ ts, t.Uncapped) →
      let later := Turn.play .strict ts d.book
      later.Discernible → ∀ saturate operation arguments,
        later.expectations.countP
          (fun e => e.accepts saturate operation arguments = .ok true) ≤ 1) ∧
    (accepted rs → d.book.Discernible → (∀ r ∈ rs, r.outcome.Silent) →
      ∀ cs : List (String × List Json),
        Move.AllLand .strict false (cs.map .ofCall) d.book →
        Move.AllLand .strict false (cs.map .ofCall) d'.book →
          let replies := Recorder.replies .strict (depth + 1)
            (cs.map fun c => .invoke false c.1 c.2)
          let after := Recorder.serveEach .strict (depth + 1)
            (cs.map fun c => ⟨_, .invoke false c.1 c.2⟩)
          replies d = replies d' ∧ (after d).book.Reordered (after d').book ∧
            (after d).book.violations.Perm (after d').book.violations ∧
            ∀ d, (Recorder.serve .strict (depth + 1) .verifyAll d).1 =
              .ok (TestError.collect d.book.violations)) := by
  intro start accepted ambiguous d d'
  have happroved : accepted rs' ↔ accepted rs := Recorder.accepted_perm rfl (depth + 1) hperm
  refine ⟨Recorder.accepted_iff_apart rfl (depth + 1) rs, happroved, fun hdecided => ?_,
    fun h ts hts => ?_, fun h hdiscernible hsilent cs hland hland' => ?_⟩
  · have hdecided' : rs'.Pairwise Registration.Decided :=
      hperm.pairwise hdecided fun hrr => symm_of Registration.Decided hrr
    have hrejected := Recorder.accepted_or_ambiguous (d := start) (depth + 1) rs hdecided
    have hrejected' := Recorder.accepted_or_ambiguous (d := start) (depth + 1) rs' hdecided'
    by_cases h : accepted rs
    · exact .inl ⟨h, happroved.mpr h⟩
    · exact .inr ⟨hrejected.resolve_left h,
        hrejected'.resolve_left fun h' => h (happroved.mp h')⟩
  · intro later hdiscernible
    have hlater : later.Separate :=
      Turn.play_invariant (fun _ _ ht hb => Turn.step_separate ht hb) hts
        (Recorder.registered_separate rfl h)
    exact Expectation.countP_accepts_le_one (hlater.disjoint hdiscernible)
  · intro replies after
    have hdisjoint : d.book.expectations.Pairwise Expectation.Disjoint :=
      (Recorder.registered_separate rfl h).disjoint hdiscernible
    obtain ⟨hreplies, hbooks⟩ := Recorder.replies_reordered .strict depth false
      (Recorder.registered_reordered rfl hperm h) hdisjoint
      (Recorder.registered_silent rfl h hsilent) hland hland'
    exact ⟨hreplies, hbooks, hbooks.violations, Recorder.serve_verifyAll⟩

/-- Expectations of a first argument that is a given number, of one that is a text, and of calls to
another operation. -/
def Registration.sortedOut : List Registration :=
  [⟨"op", ⟨[.exact (.int 1), .any]⟩, .returns (.int 1), .once⟩,
    ⟨"op", ⟨[.predicate "string" (Predicate.isKind "string"), .any]⟩, .returns (.int 2), .never⟩,
    ⟨"other", ⟨[.any, .any]⟩, .returns (.int 3), .anyNumber⟩]

/-- Two expectations of which the first one takes every call that the second one accepts. -/
def Registration.rivals : List Registration :=
  [⟨"op", ⟨[.any]⟩, .returns .null, .anyNumber⟩,
    ⟨"op", ⟨[.exact .null]⟩, .returns .null, .anyNumber⟩]

/-- Of two rivals the later one is rejected, whichever that is. The three that are sorted out take
the same calls when they are registered backwards; the second call is forbidden. -/
theorem registration_order_irrelevant_sortedOut :
    let start := Desk.ofBook .empty
    let rs := Registration.sortedOut
    let calls : List (String × List Json) :=
      [("op", [.int 1, .null]), ("op", [.str "x", .null]), ("other", [.null, .null]),
        ("op", [.int 1, .int 0])]
    let d := Recorder.registered 1 rs start
    let d' := Recorder.registered 1 rs.reverse start
    Recorder.Ambiguous (Recorder.registering 1 Registration.rivals.reverse start) ∧
      Recorder.Accepted (Recorder.registering 1 rs.reverse start) ∧
      d.book.expectations.countP
        (fun e => e.accepts false "op" [.int 1, .null] = .ok true) ≤ 1 ∧
      Recorder.replies .strict 1 (calls.map fun c => .invoke false c.1 c.2) d' =
        [.ok (.ok (.int 1)), .ok (.error (.unsatisfied "op" "<string>, _" .never 1)),
          .ok (.ok (.int 3)), .ok (.ok (.int 1))] := by
  intro start rs calls d d'
  have hambiguous : Recorder.Ambiguous (Recorder.registering 1 Registration.rivals.reverse start) := by
    obtain ⟨haccepted, -, hboth, -⟩ := registration_order_irrelevant 0 [] none Registration.rivals
      Registration.rivals.reverse Registration.rivals.reverse_perm.symm
    have hdecided : Registration.rivals.Pairwise Registration.Decided := by
      simp only [Registration.rivals, List.pairwise_cons, List.forall_mem_cons]
      exact ⟨⟨fun _ => ⟨_, rfl⟩, by simp⟩, by simp⟩
    rcases hboth hdecided with ⟨h, -⟩ | ⟨-, h⟩
    · exact absurd (haccepted.mp h) (by decide)
    · exact h
  obtain ⟨haccepted, hperm, -, hlater, hreplies⟩ :=
    registration_order_irrelevant 0 [] none rs rs.reverse rs.reverse_perm.symm
  have h : Recorder.Accepted (Recorder.registering 1 rs start) := haccepted.mpr (by decide)
  have hrespectful : ∀ r ∈ rs, r.matcher.Respectful := by
    simp only [rs, Registration.sortedOut, ArgumentMatcher.Respectful, List.forall_mem_cons]
    exact ⟨⟨trivial, trivial, by simp⟩, ⟨Predicate.isKind_respectful _ _, trivial, by simp⟩,
      ⟨trivial, trivial, by simp⟩, by simp⟩
  have htotal : ∀ r ∈ rs, r.matcher.Total := by
    intro r hr
    refine ArgumentMatcher.total_of_parts ?_
    revert r
    simp only [rs, Registration.sortedOut, List.forall_mem_cons]
    exact ⟨⟨fun _ => ⟨_, rfl⟩, fun _ => ⟨_, rfl⟩, by simp⟩,
      ⟨fun _ => ⟨_, rfl⟩, fun _ => ⟨_, rfl⟩, by simp⟩,
      ⟨fun _ => ⟨_, rfl⟩, fun _ => ⟨_, rfl⟩, by simp⟩, by simp⟩
  have hsilent : ∀ r ∈ rs, r.outcome.Silent := by
    simp only [rs, Registration.sortedOut, List.forall_mem_cons]
    exact ⟨fun _ _ => ⟨_, rfl⟩, fun _ _ => ⟨_, rfl⟩, fun _ _ => ⟨_, rfl⟩, by simp⟩
  have hdiscernible : d.book.Discernible :=
    ⟨by decide, fun _ he => hrespectful _ (Recorder.registration_mem rfl h he)⟩
  have hland : Move.AllLand .strict false (calls.map .ofCall) d.book :=
    Move.allLand_calls (fun _ he => htotal _ (Recorder.registration_mem rfl h he)) calls
  have hland' : Move.AllLand .strict false (calls.map .ofCall) d'.book :=
    Move.allLand_calls (fun _ he => htotal _
      (List.mem_reverse.mp (Recorder.registration_mem rfl (hperm.mpr h) he))) calls
  obtain ⟨hsame, -⟩ := hreplies h hdiscernible hsilent calls hland hland'
  exact ⟨hambiguous, hperm.mpr h,
    hlater h [] (by simp) hdiscernible false "op" [.int 1, .null], hsame.symm.trans rfl⟩

/-- A registration whose first predicate crashes, and one that accepts any first argument. They are
told apart by the second argument. -/
def Registration.crashing : List Registration :=
  [⟨"op", ⟨[.predicate "crash" Predicate.crash, .exact (.int 1)]⟩, .returns .null, .anyNumber⟩,
    ⟨"op", ⟨[.any, .exact (.int 2)]⟩, .returns .null, .anyNumber⟩]

/-- **A crash shows the order.** Both orders of the two registrations are accepted and can be told
apart, and no two predicates stand at the same position; a call that the second one accepts crashes
in the first one if that was registered first, and is answered if it was not. And if a predicate
crashes in the comparison of two registrations, they are neither accepted nor is one of them
rejected as ambiguous. -/
theorem crash_shows_order :
    let start := Desk.ofBook .empty
    let rs := Registration.crashing
    let d := Recorder.registered 1 rs start
    let d' := Recorder.registered 1 rs.reverse start
    let calls : List (Request .invocation) := [.invoke false "op" [.int 0, .int 2]]
    let compared : List Registration :=
      [⟨"op", ⟨[.predicate "crash" Predicate.crash]⟩, .returns .null, .anyNumber⟩,
        ⟨"op", ⟨[.exact .null]⟩, .returns .null, .anyNumber⟩]
    Recorder.Accepted (Recorder.registering 1 rs start) ∧
      Recorder.Accepted (Recorder.registering 1 rs.reverse start) ∧
      d.book.Discernible ∧ d'.book.Discernible ∧
      Recorder.replies .strict 1 calls d = [.error (.crashed ⟨"predicate panicked"⟩)] ∧
      Recorder.replies .strict 1 calls d' = [.ok (.ok .null)] ∧
      ¬ Recorder.Accepted (Recorder.registering 1 compared start) ∧
      ¬ Recorder.Ambiguous (Recorder.registering 1 compared start) := by
  intro start rs d d' calls compared
  have haccepted : Recorder.Accepted (Recorder.registering 1 rs start) :=
    (Recorder.accepted_iff_apart rfl 1 rs).mpr (by decide)
  have haccepted' : Recorder.Accepted (Recorder.registering 1 rs.reverse start) :=
    (Recorder.accepted_perm rfl 1 rs.reverse_perm.symm).mpr haccepted
  have hrespectful : ∀ r ∈ rs, r.matcher.Respectful := by
    simp only [rs, Registration.crashing, ArgumentMatcher.Respectful, List.forall_mem_cons]
    exact ⟨⟨fun _ _ _ => rfl, trivial, by simp⟩, ⟨trivial, trivial, by simp⟩, by simp⟩
  have hcompared : Recorder.registering 1 compared start =
      [.ok (.ok 0), .error (.crashed ⟨"predicate panicked"⟩)] := rfl
  refine ⟨haccepted, haccepted', ⟨by decide, fun e he => ?_⟩, ⟨by decide, fun e he => ?_⟩, rfl, rfl,
    ?_, ?_⟩
  · exact hrespectful _ (Recorder.registration_mem rfl haccepted he)
  · exact hrespectful _ (List.mem_reverse.mp (Recorder.registration_mem rfl haccepted' he))
  · simp [hcompared, Recorder.Accepted]
  · simp [hcompared, Recorder.Ambiguous]

end TestDouble
