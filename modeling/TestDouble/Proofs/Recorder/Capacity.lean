import Mathlib.Algebra.GroupWithZero.Nat
import TestDouble.Proofs.Recorder.Silence

/-!
# Room under caps

While caps are enforced no count passes a cap other than zero (`Book.WithinCaps`), so every
expectation with such a cap has some `room` left. A call that is made again and again fills the
expectations that suit it from the front: `Book.fill` says that those of a first part are full
after exactly as many calls as they had room for together, each call having gone to one of them.
-/

namespace TestDouble

variable {operation : String} {arguments : List Json}

namespace Expectation

/-- The expectation would take a call if it had room for it. -/
def Suits (operation : String) (arguments : List Json) (e : Expectation) : Prop :=
  e.operation = operation ∧ e.matcher.accepts arguments = .ok true

instance (e : Expectation) : Decidable (e.Suits operation arguments) :=
  inferInstanceAs (Decidable (_ ∧ _))

/-- The expectation has a cap other than zero. -/
def Limited (e : Expectation) : Prop := ∃ m ∈ e.times.max, 0 < m

instance (e : Expectation) : Decidable e.Limited :=
  inferInstanceAs (Decidable (∃ m ∈ e.times.max, 0 < m))

/-- How many calls still fit under the cap. -/
def room (e : Expectation) : Nat := e.times.max.getD 0 - e.consumed

variable {e : Expectation}

@[simp] theorem suits_consume : e.consume.Suits operation arguments ↔ e.Suits operation arguments :=
  Iff.rfl

theorem accepts_iff_suits :
    e.accepts true operation arguments = .ok true ↔
      e.Suits operation arguments ∧ e.isExhausted true = false := by
  rw [accepts_eq_true_iff, Suits, and_assoc, and_comm (a := e.isExhausted true = false)]

theorem isExhausted_iff :
    e.isExhausted true = true ↔ ∃ m ∈ e.times.max, 0 < m ∧ m ≤ e.consumed := by
  rw [isExhausted, Bool.true_and, Times.isExhaustedBy_iff]

/-- What has no cap other than zero takes every call that suits it. -/
theorem accepts_of_not_limited (hs : e.Suits operation arguments) (h : ¬ e.Limited) :
    e.accepts true operation arguments = .ok true := by
  rw [accepts_iff_suits, ← Bool.not_eq_true, isExhausted_iff]
  refine ⟨hs, ?_⟩
  rintro ⟨m, hm, hpos, -⟩
  exact h ⟨m, hm, hpos⟩

/-- Under a cap other than zero, an expectation is exhausted when it has no room. -/
theorem room_eq_zero_iff (h : e.Limited) : e.room = 0 ↔ e.isExhausted true = true := by
  obtain ⟨m, hm, hpos⟩ := h
  have hmax : e.times.max = some m := hm
  rw [isExhausted_iff, room, hmax]
  simp only [Option.getD_some, Option.mem_some_iff, exists_eq_left']
  omega

/-- One call takes one place. -/
theorem room_consume (h : 0 < e.room) : e.consume.room + 1 = e.room := by
  simp only [room, consume_times, consume_consumed] at h ⊢
  omega

end Expectation

/-! ### No count passes a cap -/

/-- No count is above a cap other than zero. -/
def Book.WithinCaps (b : Book) : Prop :=
  ∀ e ∈ b.expectations, ∀ m ∈ e.times.max, 0 < m → e.consumed ≤ m

/-- **While caps are enforced, each turn keeps the counts within them.** -/
theorem Turn.step_withinCaps (mode : Mode) {b : Book} {t : Turn} (ht : t.Saturates)
    (h : b.WithinCaps) : (t.step mode b).WithinCaps := by
  refine step_forall (P := fun e => ∀ m ∈ e.times.max, 0 < m → e.consumed ≤ m) mode ?_ ?_ h
  · intro saturate operation matcher outcome times id _ m _ _
    exact Nat.zero_le m
  · rintro saturate operation arguments rfl e he - m hm hpos
    obtain rfl : saturate = true := ht
    obtain ⟨-, hx⟩ := Expectation.accepts_iff_suits.mp he
    -- an expectation that accepts is not exhausted, so its count is still below the cap
    refine Nat.lt_of_not_le fun hle => ?_
    rw [Expectation.isExhausted_iff (e := e).mpr ⟨m, hm, hpos, hle⟩] at hx
    cases hx

/-! ### Filling up -/

/-- The expectations that suit a call. -/
def rivals (operation : String) (arguments : List Json) (es : List Expectation) :
    List Expectation :=
  es.filter fun e => e.Suits operation arguments

/-- The room that the expectations that suit a call have together. -/
def spare (operation : String) (arguments : List Json) (es : List Expectation) : Nat :=
  ((rivals operation arguments es).map Expectation.room).sum

theorem mem_rivals {es : List Expectation} {e : Expectation} :
    e ∈ rivals operation arguments es ↔ e ∈ es ∧ e.Suits operation arguments := by
  simp [rivals]

/-- Counting a call changes no id. -/
theorem exists_rival_of_consume {l r : List Expectation} {e x : Expectation}
    (hx : x ∈ rivals operation arguments (l ++ e.consume :: r)) :
    ∃ y ∈ rivals operation arguments (l ++ e :: r), y.id = x.id := by
  obtain ⟨hmem, hs⟩ := mem_rivals.mp hx
  simp only [List.mem_append, List.mem_cons] at hmem
  rcases hmem with hmem | rfl | hmem
  · exact ⟨x, mem_rivals.mpr ⟨by simp [hmem], hs⟩, rfl⟩
  · exact ⟨e, mem_rivals.mpr ⟨by simp, hs⟩, rfl⟩
  · exact ⟨x, mem_rivals.mpr ⟨by simp [hmem], hs⟩, rfl⟩

/-- The expectations of a list that a call may go to can be filled, and their matchers answer. -/
structure Fillable (operation : String) (arguments : List Json) (es : List Expectation) :
    Prop where
  answers : ∀ e ∈ es, e.matcher.Answers arguments
  limited : ∀ e ∈ rivals operation arguments es, e.Limited

namespace Fillable

variable {l r : List Expectation} {e : Expectation}

theorem consume (h : Fillable operation arguments (l ++ e :: r)) :
    Fillable operation arguments (l ++ e.consume :: r) where
  answers := by
    have := h.answers
    simp only [List.forall_mem_append, List.forall_mem_cons] at this ⊢
    exact this
  limited := by
    have := h.limited
    simp only [mem_rivals, List.mem_append, List.mem_cons] at this ⊢
    rintro x ⟨hx | rfl | hx, hs⟩
    · exact this x ⟨.inl hx, hs⟩
    · exact this e ⟨.inr (.inl rfl), hs⟩
    · exact this x ⟨.inr (.inr hx), hs⟩

/-- There is no room left when every expectation refuses the call. -/
theorem spare_eq_zero_iff (h : Fillable operation arguments l) :
    spare operation arguments l = 0 ↔
      ∀ e ∈ l, e.accepts true operation arguments = .ok false := by
  rw [spare, List.sum_eq_zero_iff_forall_eq_nat]
  simp only [List.forall_mem_map]
  constructor
  · intro hroom e he
    refine Expectation.accepts_eq_false_of_ne (fun _ => h.answers e he) fun haccepts => ?_
    obtain ⟨hs, hx⟩ := Expectation.accepts_iff_suits.mp haccepts
    have hmem := mem_rivals.mpr ⟨he, hs⟩
    rw [(Expectation.room_eq_zero_iff (h.limited e hmem)).mp (hroom e hmem)] at hx
    cases hx
  · intro hrefuse e he
    obtain ⟨hmem, hs⟩ := mem_rivals.mp he
    rw [Expectation.room_eq_zero_iff (h.limited e he), ← Bool.not_eq_false]
    intro hx
    have := hrefuse e hmem
    rw [Expectation.accepts_iff_suits.mpr ⟨hs, hx⟩] at this
    cases this

/-- A call that is taken leaves one place less. -/
theorem spare_consume (h : Fillable operation arguments (l ++ e :: r))
    (he : e.accepts true operation arguments = .ok true) :
    spare operation arguments (l ++ e.consume :: r) + 1 =
      spare operation arguments (l ++ e :: r) := by
  obtain ⟨hs, hx⟩ := Expectation.accepts_iff_suits.mp he
  have hlimited := h.limited e (mem_rivals.mpr ⟨by simp, hs⟩)
  have hroom : 0 < e.room := by
    rw [Nat.pos_iff_ne_zero, Ne, Expectation.room_eq_zero_iff hlimited, hx]
    exact Bool.false_ne_true
  have := Expectation.room_consume hroom
  simp only [spare, rivals, List.filter_append, List.filter_cons, Expectation.suits_consume, hs,
    decide_true, if_true, List.map_append, List.map_cons, List.sum_append, List.sum_cons]
  omega

/-- While there is room, a first expectation accepts the call. -/
theorem exists_first (h : Fillable operation arguments l) (hpos : 0 < spare operation arguments l) :
    ∃ l₁ e l₂, l = l₁ ++ e :: l₂ ∧
      (∀ x ∈ l₁, x.accepts true operation arguments = .ok false) ∧
      e.accepts true operation arguments = .ok true := by
  refine (Expectation.refuse_or_first true operation h.answers).resolve_left fun hrefuse => ?_
  rw [h.spare_eq_zero_iff.mpr hrefuse] at hpos
  cases hpos

end Fillable

namespace Book

/-- The id of the expectation that took the last call. -/
def lastTaker (b : Book) : Option Nat := b.calls.getLast?.bind (·.matched)

/-- The book after the same call has been made `n` times. -/
def again (operation : String) (arguments : List Json) : Nat → Book → Book
  | 0, b => b
  | n + 1, b => again operation arguments n (b.record true operation arguments).2

variable {b : Book} {l r : List Expectation} {e : Expectation}

theorem again_add (m n : Nat) (b : Book) :
    b.again operation arguments (m + n) =
      (b.again operation arguments m).again operation arguments n := by
  induction m generalizing b with
  | zero => simp [again]
  | succ m ih => rw [Nat.succ_add, again, ih, again]

/-- A call goes to the first expectation that accepts it. -/
theorem again_one (hes : b.expectations = l ++ e :: r)
    (hl : ∀ x ∈ l, x.accepts true operation arguments = .ok false)
    (he : e.accepts true operation arguments = .ok true) :
    (b.again operation arguments 1).expectations = l ++ e.consume :: r ∧
      (b.again operation arguments 1).lastTaker = some e.id := by
  simp [again, record_split hes hl he, lastTaker]

/-- Every call is recorded if the matchers answer. -/
theorem length_record (h : b.Plain) (saturate : Bool) (operation : String)
    (arguments : List Json) :
    (b.record saturate operation arguments).2.calls.length = b.calls.length + 1 := by
  rcases Expectation.refuse_or_first saturate operation fun e he => h.total e he arguments with
    hrefuse | ⟨l, e, r, hes, hl, he⟩
  · simp [record_none hrefuse]
  · simp [record_split hes hl he]

theorem length_again (h : b.Plain) (operation : String) (arguments : List Json) (n : Nat) :
    (b.again operation arguments n).calls.length = b.calls.length + n := by
  induction n generalizing b with
  | zero => rfl
  | succ n ih =>
    rw [again, ih (h.record true operation arguments), length_record h]
    omega

/-- **A first part is filled up**: after as many calls as it has room for, it is full, each of
these calls has gone to an expectation of it, and the rest is as before. -/
theorem fill (h : Fillable operation arguments l) (hes : b.expectations = l ++ r) :
    ∃ l', (b.again operation arguments (spare operation arguments l)).expectations = l' ++ r ∧
      (∀ x ∈ l', x.accepts true operation arguments = .ok false) ∧
      ∀ n < spare operation arguments l, ∃ x ∈ rivals operation arguments l,
        (b.again operation arguments (n + 1)).lastTaker = some x.id := by
  -- by induction on the room that is left, of which each call takes one place
  induction hn : spare operation arguments l generalizing b l with
  | zero => exact ⟨l, hes, h.spare_eq_zero_iff.mp hn, by simp⟩
  | succ k ih =>
    obtain ⟨l₁, e, l₂, rfl, hbefore, he⟩ := h.exists_first (by omega)
    rw [List.append_assoc, List.cons_append] at hes
    obtain ⟨hes', htaker⟩ := again_one hes hbefore he
    have hk : spare operation arguments (l₁ ++ e.consume :: l₂) = k := by
      have := h.spare_consume he
      omega
    obtain ⟨l', hfull, hrefuse, htakers⟩ := ih h.consume (by simpa using hes') hk
    refine ⟨l', hfull, hrefuse, fun n hlt => ?_⟩
    cases n with
    | zero =>
      have hs := (Expectation.accepts_iff_suits.mp he).1
      exact ⟨e, mem_rivals.mpr ⟨by simp, hs⟩, htaker⟩
    | succ n =>
      obtain ⟨x, hx, hid⟩ := htakers n (by omega)
      obtain ⟨y, hy, hxy⟩ := exists_rival_of_consume hx
      exact ⟨y, hy, hxy ▸ hid⟩

/-- An expectation without a cap other than zero keeps the calls that get to it. -/
theorem again_of_not_limited (hes : b.expectations = l ++ e :: r)
    (hl : ∀ x ∈ l, x.accepts true operation arguments = .ok false)
    (hs : e.Suits operation arguments) (hlimited : ¬ e.Limited) (n : Nat) :
    (b.again operation arguments (n + 1)).lastTaker = some e.id := by
  induction n generalizing b e with
  | zero => exact (again_one hes hl (Expectation.accepts_of_not_limited hs hlimited)).2
  | succ n ih =>
    obtain ⟨hes', -⟩ := again_one hes hl (Expectation.accepts_of_not_limited hs hlimited)
    exact ih (e := e.consume) hes' hs hlimited

end Book
end TestDouble
