import Mathlib.Tactic.SplitIfs
import TestDouble.Proofs.Recorder.Routing
import TestDouble.Recorder

/-!
# Turns at a recorder

A recorder keeps its book behind a lock. Each time the lock is held the book changes in one of four
ways, a `Turn`: an expectation is registered, a call is looked up and recorded, calls are verified,
or everything is forgotten. Callbacks run while nobody holds the lock, so what they do is further
turns, and a book can be found in any state that some list of turns leads to.

A property of books that every turn keeps holds after any list of turns (`Turn.play_invariant`).
What turns a request takes is said in `TestDouble.Proofs.Recorder.Trace`.
-/

namespace TestDouble

/-- What one client does to a recorder while it holds the lock. -/
inductive Turn where
  | register (saturate : Bool) (operation : String) (matcher : ArgumentMatcher)
    (outcome : Outcome) (times : Times)
  /-- The first part of an invocation: the call is looked up, counted and recorded. -/
  | call (saturate : Bool) (operation : String) (arguments : List Json)
  | verify (operation : String) (matcher : ArgumentMatcher) (times : Times)
  | reset

/-- A desk with nothing on it but a book. -/
def Desk.ofBook (b : Book) : Desk := ⟨b, [], none⟩

@[simp] theorem Desk.ofBook_book (b : Book) : (Desk.ofBook b).book = b := rfl

namespace Turn

/-- Whether the turn is taken with a handle that enforces caps, if that matters to it. -/
def Saturates : Turn → Prop
  | register saturate .. => saturate = true
  | call saturate .. => saturate = true
  | verify .. => True
  | reset => True

/-- The request that begins with a turn. -/
def request : Turn → (k : RequestKind) × Request k
  | register saturate operation matcher outcome times =>
    ⟨_, .register saturate operation matcher outcome times⟩
  | call saturate operation arguments => ⟨_, .invoke saturate operation arguments⟩
  | verify operation matcher times => ⟨_, .verify operation matcher times⟩
  | reset => ⟨_, .reset⟩

/-- What a turn does to the book. -/
def step (mode : Mode) (b : Book) : Turn → Book
  | register saturate operation matcher outcome times =>
    (Recorder.register mode saturate operation matcher outcome times (.ofBook b)).2.book
  | call saturate operation arguments => (b.record saturate operation arguments).2
  | verify operation matcher times =>
    (Recorder.verify operation matcher times (.ofBook b)).2.book
  | reset => .empty

/-- What turns do to the book one after another. -/
def play (mode : Mode) (ts : List Turn) (b : Book) : Book := ts.foldl (step mode) b

variable {mode : Mode} {b : Book}

@[simp] theorem play_nil : play mode [] b = b := rfl

@[simp] theorem play_cons (t : Turn) (ts : List Turn) :
    play mode (t :: ts) b = play mode ts (t.step mode b) := rfl

@[simp] theorem play_append (ts us : List Turn) :
    play mode (ts ++ us) b = play mode us (play mode ts b) := List.foldl_append

/-- What every allowed turn keeps, every run of them keeps. -/
theorem play_invariant {P : Book → Prop} {allowed : Turn → Prop}
    (hstep : ∀ b t, allowed t → P b → P (t.step mode b)) {ts : List Turn}
    (hts : ∀ t ∈ ts, allowed t) (hb : P b) : P (play mode ts b) := by
  induction ts generalizing b with
  | nil => exact hb
  | cons t ts ih =>
    obtain ⟨ht, hts⟩ := List.forall_mem_cons.mp hts
    exact ih hts (hstep b t ht hb)

@[simp] theorem step_call (saturate : Bool) (operation : String) (arguments : List Json) :
    (call saturate operation arguments).step mode b = (b.record saturate operation arguments).2 :=
  rfl

@[simp] theorem step_reset : reset.step mode b = .empty := rfl

end Turn

/-! ### The book after each operation of a recorder -/

namespace Recorder

variable {mode : Mode} {saturate : Bool} {operation : String} {matcher : ArgumentMatcher}
  {outcome : Outcome} {times : Times}

/-- **The two ends of a registration**: it is taken, under the next id, after a check that on a
strict recorder found nothing; or it leaves the book as it was and gives no id. -/
theorem register_cases (mode : Mode) (saturate : Bool) (operation : String)
    (matcher : ArgumentMatcher) (outcome : Outcome) (times : Times) (d : Desk) :
    (∃ shadow, Book.shadowOf saturate operation matcher d.book.expectations = .ok shadow ∧
        (mode.isStrict = true → shadow = none) ∧
        (register mode saturate operation matcher outcome times d).1 =
          .ok (.ok d.book.nextExpectation) ∧
        (register mode saturate operation matcher outcome times d).2.book =
          d.book.add operation matcher outcome times) ∨
      (∀ id, (register mode saturate operation matcher outcome times d).1 ≠ .ok (.ok id)) ∧
        (register mode saturate operation matcher outcome times d).2 = d := by
  cases h : Book.shadowOf saturate operation matcher d.book.expectations with
  | error c => exact .inr (by simp [register, h])
  | ok shadow =>
    cases shadow with
    | none => exact .inl ⟨none, rfl, fun _ => rfl, by simp [register, h]⟩
    | some existing =>
      by_cases hm : mode.isStrict = true
      · exact .inr (by simp [register, h, hm])
      · exact .inl ⟨some existing, rfl, fun hm' => absurd hm' hm, by simp [register, h, hm]⟩

/-- **The three ends of a verification**: a predicate crashes; the count is as it should be, and the
counted calls are marked; or it is not, and everything stays as it was. -/
theorem verify_cases (operation : String) (matcher : ArgumentMatcher) (times : Times) (d : Desk) :
    (∃ c, verify operation matcher times d = (.error (.crashed c), d)) ∨
      (∃ n marked, Book.tally operation matcher d.book.calls = .ok (n, marked) ∧
        times.isSatisfiedBy n = true ∧ verify operation matcher times d =
          (.ok (.ok ()), { d with book := { d.book with calls := marked } })) ∨
      ∃ n marked, Book.tally operation matcher d.book.calls = .ok (n, marked) ∧
        times.isSatisfiedBy n = false ∧ verify operation matcher times d =
          (.ok (.error (.unsatisfied operation matcher.text times n)), d) := by
  cases ht : Book.tally operation matcher d.book.calls with
  | error c => exact .inl ⟨c, by simp [verify, Book.verify, ht]⟩
  | ok p =>
    obtain ⟨n, marked⟩ := p
    cases hs : times.isSatisfiedBy n with
    | true => exact .inr (.inl ⟨n, marked, rfl, hs, by simp [verify, Book.verify, ht, hs]⟩)
    | false => exact .inr (.inr ⟨n, marked, rfl, hs, by simp [verify, Book.verify, ht, hs]⟩)

theorem register_book (d : Desk) :
    (register mode saturate operation matcher outcome times d).2.book =
      (Turn.register saturate operation matcher outcome times).step mode d.book := by
  simp only [Turn.step, register, Desk.ofBook_book]
  cases Book.shadowOf saturate operation matcher d.book.expectations with
  | error c => rfl
  | ok shadow => cases shadow <;> cases mode <;> rfl

theorem verify_book (mode : Mode) (d : Desk) :
    (verify operation matcher times d).2.book =
      (Turn.verify operation matcher times).step mode d.book := by
  unfold Turn.step verify
  simp only [Desk.ofBook_book]
  split <;> rfl

theorem record_book (arguments : List Json) (d : Desk) :
    (record mode saturate operation arguments d).2.book =
      (Turn.call saturate operation arguments).step mode d.book := by
  unfold Turn.step record
  split <;> simp_all

end Recorder

namespace Turn

variable {mode : Mode} {b : Book}

/-- A registration adds an expectation, after a check that on a strict recorder found nothing, or
leaves the book as it was. -/
theorem step_register_cases (mode : Mode) (saturate : Bool) (operation : String)
    (matcher : ArgumentMatcher) (outcome : Outcome) (times : Times) (b : Book) :
    (∃ shadow, Book.shadowOf saturate operation matcher b.expectations = .ok shadow ∧
        (mode.isStrict = true → shadow = none) ∧
        (register saturate operation matcher outcome times).step mode b =
          b.add operation matcher outcome times) ∨
      (register saturate operation matcher outcome times).step mode b = b := by
  rcases Recorder.register_cases mode saturate operation matcher outcome times (.ofBook b) with
    ⟨shadow, hs, hm, -, hb⟩ | ⟨-, hd⟩
  · exact .inl ⟨shadow, hs, hm, hb⟩
  · exact .inr (by rw [step, hd, Desk.ofBook_book])

/-- A verification changes nothing but the marks on the calls. -/
theorem step_verify (mode : Mode) (b : Book) (operation : String) (matcher : ArgumentMatcher)
    (times : Times) :
    ∃ calls, (verify operation matcher times).step mode b = { b with calls } ∧
      calls.map RecordedCall.unmarked = b.calls.map RecordedCall.unmarked := by
  unfold step Recorder.verify
  simp only [Desk.ofBook_book]
  split
  · exact ⟨b.calls, rfl, rfl⟩
  · next h =>
    obtain ⟨hb, hc⟩ := Book.verify_eq_ok h
    exact ⟨_, hb, hc⟩

end Turn

/-- **A property of each expectation**: it holds of all of them after a turn if it holds of those
that are registered and of the one that counts a call. -/
theorem Turn.step_forall {P : Expectation → Prop} (mode : Mode) {b : Book} {t : Turn}
    (hregister : ∀ saturate operation matcher outcome times id,
      t = .register saturate operation matcher outcome times →
        P ⟨id, operation, matcher, outcome, times, 0⟩)
    (hcall : ∀ saturate operation arguments, t = .call saturate operation arguments →
      ∀ e, e.accepts saturate operation arguments = .ok true → P e → P e.consume)
    (h : ∀ e ∈ b.expectations, P e) : ∀ e ∈ (t.step mode b).expectations, P e := by
  cases t with
  | register saturate operation matcher outcome times =>
    rcases step_register_cases mode saturate operation matcher outcome times b with
      ⟨-, -, -, hb⟩ | hb
    · intro e he
      rw [hb, Book.add, List.mem_append, List.mem_singleton] at he
      rcases he with he | rfl
      · exact h e he
      · exact hregister _ _ _ _ _ _ rfl
    · rwa [hb]
  | call saturate operation arguments =>
    rw [step_call]
    rcases b.record_cases saturate operation arguments with
      ⟨c, hr⟩ | ⟨-, hr⟩ | ⟨l, e, r, hes, -, he, hr⟩
    · rwa [hr]
    · rwa [hr]
    · rw [hes] at h
      rw [hr]
      simp only [Book.enter_expectations, List.mem_append, List.mem_cons] at h ⊢
      rintro x (hx | rfl | hx)
      · exact h x (.inl hx)
      · exact hcall _ _ _ rfl e he (h e (.inr (.inl rfl)))
      · exact h x (.inr (.inr hx))
  | verify operation matcher times =>
    obtain ⟨calls, hb, -⟩ := step_verify mode b operation matcher times
    rwa [hb]
  | reset => simp [Book.empty]

/-- **A relation between the expectations**, each with those after it, that does not look at counts:
it holds after a turn if every expectation has it to one that is registered. -/
theorem Turn.step_pairwise {R : Expectation → Expectation → Prop} (mode : Mode) {b : Book} {t : Turn}
    (hleft : ∀ x y, R x y → R x.consume y) (hright : ∀ x y, R x y → R x y.consume)
    (hregister : ∀ saturate operation matcher outcome times,
      t = .register saturate operation matcher outcome times →
      (mode.isStrict = true →
        ∀ x ∈ b.expectations, x.shadows saturate operation matcher = .ok false) →
      ∀ x ∈ b.expectations, R x ⟨b.nextExpectation, operation, matcher, outcome, times, 0⟩)
    (h : b.expectations.Pairwise R) : (t.step mode b).expectations.Pairwise R := by
  cases t with
  | register saturate operation matcher outcome times =>
    rcases step_register_cases mode saturate operation matcher outcome times b with
      ⟨shadow, hshadow, hnone, hb⟩ | hb
    · rw [hb, Book.add, List.pairwise_append]
      refine ⟨h, List.pairwise_singleton _ _, fun x hx y hy => ?_⟩
      obtain rfl := List.mem_singleton.mp hy
      refine hregister _ _ _ _ _ rfl (fun hm => ?_) x hx
      exact Book.shadowOf_eq_none_iff.mp (hnone hm ▸ hshadow)
    · rwa [hb]
  | call saturate operation arguments =>
    rw [step_call]
    rcases b.record_cases saturate operation arguments with
      ⟨c, hr⟩ | ⟨-, hr⟩ | ⟨l, e, r, hes, -, -, hr⟩
    · rwa [hr]
    · rwa [hr]
    · rw [hes, List.pairwise_append, List.pairwise_cons] at h
      obtain ⟨hl, ⟨hafter, hr'⟩, hbefore⟩ := h
      rw [hr, Book.enter_expectations, List.pairwise_append, List.pairwise_cons]
      refine ⟨hl, ⟨fun x hx => hleft e x (hafter x hx), hr'⟩, fun x hx y hy => ?_⟩
      obtain rfl | hy := List.mem_cons.mp hy
      · exact hright x e (hbefore x hx e List.mem_cons_self)
      · exact hbefore x hx y (List.mem_cons_of_mem e hy)
  | verify operation matcher times =>
    obtain ⟨calls, hb, -⟩ := step_verify mode b operation matcher times
    rwa [hb]
  | reset => exact List.Pairwise.nil

/-- The expectation that a call hit is one of the book, with the call counted. -/
theorem Book.record_mem {b : Book} {saturate : Bool} {operation : String} {arguments : List Json}
    {e : Expectation} (h : (b.record saturate operation arguments).1 = .ok (some e)) :
    e ∈ (b.record saturate operation arguments).2.expectations := by
  rcases b.record_cases saturate operation arguments with
    ⟨c, hr⟩ | ⟨-, hr⟩ | ⟨l, x, r, -, -, -, hr⟩
  · simp [hr] at h
  · simp [hr] at h
  · obtain rfl : x.consume = e := by simpa [hr] using h
    simp [hr]

/-- The expectation that a call hit is one of those on the desk. -/
theorem Recorder.record_mem {mode : Mode} {saturate : Bool} {operation : String}
    {arguments : List Json} {d : Desk} {e : Expectation}
    (h : (record mode saturate operation arguments d).1 = .ok (some e)) :
    e ∈ (record mode saturate operation arguments d).2.book.expectations := by
  rw [record_book, Turn.step_call]
  refine Book.record_mem ?_
  unfold record at h
  split at h
  · cases h
  · next hit b' hr =>
    obtain rfl : hit = some e := by simpa using h
    rw [hr]

end TestDouble
