import TestDouble.Proofs.Recorder.Answer
import TestDouble.Proofs.Recorder.Congruence
import TestDouble.Proofs.Recorder.Silence
import TestDouble.Proofs.Recorder.Verdict

/-!
# The two modes

A strict recorder fails some calls that a lenient one answers. It does so after the call is
recorded, so the two keep the same book as long as they take the same registrations:
`serve_modes` says so of one request, and `mode_changes_answers_only` of every run. The replies
differ only where `Request.Agree` lets them.
-/

namespace TestDouble

namespace Request

/-- The request registers no outcome that asks something of the recorder. -/
def Silent : {k : RequestKind} → Request k → Prop
  | _, .register _ _ _ outcome _ => outcome.Silent
  | _, .invoke .. => True
  | _, .verify .. => True
  | _, .verifyAll => True
  | _, .verifyNoOtherCalls => True
  | _, .calls => True
  | _, .expectations => True
  | _, .reset => True

/-- The reply refuses a registration. -/
def Refused : {k : RequestKind} → Request k → Except Stop k.Reply → Prop
  | _, .register .., reply => ∃ e, reply = .ok (.error e)
  | _, .invoke .., _ => False
  | _, .verify .., _ => False
  | _, .verifyAll, _ => False
  | _, .verifyNoOtherCalls, _ => False
  | _, .calls, _ => False
  | _, .expectations, _ => False
  | _, .reset, _ => False

/-- How the replies of a strict and of a lenient recorder to a call go together, by what the look-up
of the call finds. They are the same, except for a call that nobody takes and for one that hits an
expectation which forbids it. -/
def AgreeOnCall (operation : String) (arguments : List Json) :
    Except Crash (Option Expectation) →
      (strict lenient : Except Stop (Except TestError Json)) → Prop
  | .error _, strict, lenient => strict = lenient
  | .ok none, strict, lenient =>
    strict = .ok (.error (.unexpectedCall operation arguments)) ∧ lenient = .ok (.ok .null)
  | .ok (some e), strict, lenient =>
    if e.times.max = some 0 then
      strict = .ok (.error (.unsatisfied operation e.matcher.text e.times e.consumed)) ∧
        ∃ r, e.outcome.reply? (e.consumed - 1) arguments = some r ∧ lenient = r.mapError .crashed
    else strict = lenient

/-- How the replies of a strict and of a lenient recorder to a request go together, `b` being the
book of both before it. -/
def Agree (b : Book) :
    {k : RequestKind} → Request k → (strict lenient : Except Stop k.Reply) → Prop
  | _, .register .., strict, lenient => strict = lenient
  | _, .invoke saturate operation arguments, strict, lenient =>
    AgreeOnCall operation arguments (b.record saturate operation arguments).1 strict lenient
  | _, .verify .., strict, lenient => strict = lenient
  | _, .verifyAll, strict, lenient => strict = lenient
  | _, .verifyNoOtherCalls, strict, lenient => strict = lenient
  | _, .calls, strict, lenient => strict = lenient
  | _, .expectations, strict, lenient => strict = lenient
  | _, .reset, strict, lenient => strict = lenient

end Request

namespace Recorder

/-- The recorder refuses no registration among some requests. -/
def Admits (mode : Mode) (depth : Nat) : List ((k : RequestKind) × Request k) → Desk → Prop
  | [], _ => True
  | q :: qs, d =>
    ¬ q.2.Refused (serve mode depth q.2 d).1 ∧ Admits mode depth qs (serve mode depth q.2 d).2

theorem admits_append {mode : Mode} {depth : Nat} {qs rs : List ((k : RequestKind) × Request k)}
    {d : Desk} : Admits mode depth (qs ++ rs) d ↔
      Admits mode depth qs d ∧ Admits mode depth rs (serveEach mode depth qs d) := by
  induction qs generalizing d with
  | nil => exact ⟨fun h => ⟨trivial, h⟩, And.right⟩
  | cons q qs ih =>
    rw [List.cons_append, Admits, Admits, ih, and_assoc]
    rfl

variable {s l : Desk} {saturate : Bool} {operation : String} {matcher : ArgumentMatcher}
  {outcome : Outcome} {times : Times}

/-- A registration that a strict recorder does not refuse, a lenient one takes in the same way. -/
theorem register_modes (hb : s.book = l.book)
    (hr : ∀ e, (register .strict saturate operation matcher outcome times s).1 ≠ .ok (.error e)) :
    (register .strict saturate operation matcher outcome times s).1 =
        (register .lenient saturate operation matcher outcome times l).1 ∧
      (register .strict saturate operation matcher outcome times s).2.book =
        (register .lenient saturate operation matcher outcome times l).2.book := by
  simp only [register, hb] at hr ⊢
  cases hs : Book.shadowOf saturate operation matcher l.book.expectations with
  | error c => exact ⟨rfl, hb⟩
  | ok shadow =>
    cases shadow with
    | none => exact ⟨rfl, rfl⟩
    | some existing => simp [hs, Mode.isStrict] at hr

/-- **The answers of the two modes to a call.** -/
theorem invoke_modes (depth : Nat) (hb : s.book = l.book) (hs : s.book.Silent) (saturate : Bool)
    (operation : String) (arguments : List Json) :
    Request.AgreeOnCall operation arguments (s.book.record saturate operation arguments).1
      (serve .strict (depth + 1) (.invoke saturate operation arguments) s).1
      (serve .lenient (depth + 1) (.invoke saturate operation arguments) l).1 := by
  rcases s.book.record_cases saturate operation arguments with
    ⟨c, hr⟩ | ⟨-, hr⟩ | ⟨before, e, after, hes, -, he, hr⟩
  · simp only [hr, Request.AgreeOnCall]
    rw [serve_invoke_crashed _ rfl hr, serve_invoke_crashed _ hb.symm hr]
  · simp only [hr, Request.AgreeOnCall]
    rw [serve_invoke_none _ rfl hr, serve_invoke_none _ hb.symm hr]
    exact ⟨rfl, rfl⟩
  · obtain ⟨ho, -, -⟩ := Expectation.accepts_eq_true_iff.mp he
    obtain ⟨r, hreply⟩ := hs e (by simp [hes]) e.consumed arguments
    have hlenient : (serve .lenient (depth + 1) (.invoke saturate operation arguments) l).1 =
        r.mapError .crashed := by
      rw [serve_invoke_apply depth hb.symm hr (Bool.and_false _)]
      exact apply_silent hreply _
    simp only [hr, Request.AgreeOnCall]
    split_ifs with hmax
    · have hforbids : e.consume.times.forbidsCalls = true := Times.forbidsCalls_iff.mpr hmax
      refine ⟨?_, r, hreply, hlenient⟩
      rw [serve_invoke_forbidden _ rfl hr (by rw [hforbids]; rfl), Expectation.violation]
      simp only [Expectation.consume_operation, ho]
    · have hforbids : e.consume.times.forbidsCalls = false := by
        rwa [← Bool.not_eq_true, Times.forbidsCalls_iff]
      rw [hlenient, serve_invoke_apply depth rfl hr (by rw [hforbids]; rfl)]
      exact apply_silent hreply _

/-- **One request**: two recorders with the same book keep the same book, unless the strict one
refuses a registration, and their replies agree. -/
theorem serve_modes (depth : Nat) {k : RequestKind} {q : Request k} (hq : q.Silent)
    (hb : s.book = l.book) (hs : s.book.Silent)
    (hr : ¬ q.Refused (serve .strict (depth + 1) q s).1) :
    (serve .strict (depth + 1) q s).2.book = (serve .lenient (depth + 1) q l).2.book ∧
      (serve .strict (depth + 1) q s).2.book.Silent ∧
      q.Agree s.book (serve .strict (depth + 1) q s).1 (serve .lenient (depth + 1) q l).1 := by
  cases q with
  | register saturate operation matcher outcome times =>
    have hsilent := Turn.step_silent .strict
      (t := .register saturate operation matcher outcome times) hq hs
    simp only [Request.Refused, not_exists, serve] at hr
    obtain ⟨hreply, hbook⟩ := register_modes hb hr
    rw [serve, serve]
    exact ⟨hbook, by rwa [register_book], hreply⟩
  | invoke saturate operation arguments =>
    have hsilent : l.book.Silent := hb ▸ hs
    refine ⟨?_, ?_, invoke_modes depth hb hs saturate operation arguments⟩
    · rw [serve_invoke_book (depth + 1) saturate operation hs,
        serve_invoke_book (depth + 1) saturate operation hsilent, hb]
    · rw [serve_invoke_book (depth + 1) saturate operation hs]
      exact hs.record saturate operation arguments
  | verify operation matcher times =>
    have hsilent := Turn.step_silent .strict (t := .verify operation matcher times) trivial hs
    obtain ⟨hreply, hbook⟩ := verify_congr operation matcher times hb
    rw [serve, serve]
    exact ⟨hbook, by rwa [verify_book .strict], hreply⟩
  | verifyAll =>
    refine ⟨by rw [serve, serve]; exact hb, by rw [serve]; exact hs, ?_⟩
    rw [serve_verifyAll, serve_verifyAll, hb]
    rfl
  | verifyNoOtherCalls =>
    refine ⟨by rw [serve, serve]; exact hb, by rw [serve]; exact hs, ?_⟩
    rw [serve_verifyNoOtherCalls, serve_verifyNoOtherCalls, hb]
    rfl
  | calls =>
    rw [serve, serve]
    exact ⟨hb, hs, by simp only [Request.Agree, hb]⟩
  | expectations =>
    rw [serve, serve]
    exact ⟨hb, hs, by simp only [Request.Agree, hb]⟩
  | reset =>
    rw [serve, serve]
    exact ⟨rfl, by simp [Book.Silent, Book.empty], rfl⟩

/-- **A run of requests**: as long as the strict recorder refuses no registration, the two keep the
same book. -/
theorem serveEach_modes (depth : Nat) {qs : List ((k : RequestKind) × Request k)}
    (hqs : ∀ q ∈ qs, q.2.Silent) (hb : s.book = l.book) (hs : s.book.Silent)
    (hadmits : Admits .strict (depth + 1) qs s) :
    (serveEach .strict (depth + 1) qs s).book = (serveEach .lenient (depth + 1) qs l).book ∧
      (serveEach .strict (depth + 1) qs s).book.Silent := by
  induction qs generalizing s l with
  | nil => exact ⟨hb, hs⟩
  | cons q qs ih =>
    obtain ⟨hq, hqs⟩ := List.forall_mem_cons.mp hqs
    obtain ⟨hr, hadmits⟩ := hadmits
    obtain ⟨hb', hs', -⟩ := serve_modes depth hq hb hs hr
    exact ih hqs hb' hs' hadmits

end Recorder

/-- **The mode changes answers only.** Ask the same of a new strict and of a new lenient recorder,
no outcome asking anything in turn, and let the strict one refuse no registration. Then before and
after each request the two have the same book, and their replies to it are the same, except for a
call that nobody takes and for one that hits an expectation which forbids it. -/
theorem mode_changes_answers_only (depth : Nat) (diagnostics : List Diagnostic)
    (reported : Option TestError) (qs : List ((k : RequestKind) × Request k))
    (hqs : ∀ q ∈ qs, q.2.Silent)
    (hadmits : Recorder.Admits .strict (depth + 1) qs ⟨.empty, diagnostics, reported⟩)
    (before after : List ((k : RequestKind) × Request k)) (q : (k : RequestKind) × Request k)
    (h : qs = before ++ q :: after) :
    let s := Recorder.serveEach .strict (depth + 1) before ⟨.empty, diagnostics, reported⟩
    let l := Recorder.serveEach .lenient (depth + 1) before ⟨.empty, diagnostics, reported⟩
    s.book = l.book ∧
      (Recorder.serve .strict (depth + 1) q.2 s).2.book =
        (Recorder.serve .lenient (depth + 1) q.2 l).2.book ∧
      q.2.Agree s.book (Recorder.serve .strict (depth + 1) q.2 s).1
        (Recorder.serve .lenient (depth + 1) q.2 l).1 := by
  intro s l
  subst h
  rw [List.forall_mem_append, List.forall_mem_cons] at hqs
  obtain ⟨hbefore, hq, -⟩ := hqs
  obtain ⟨hadmits, hr, -⟩ := Recorder.admits_append.mp hadmits
  have hsilent : Book.empty.Silent := by simp [Book.Silent, Book.empty]
  obtain ⟨hb, hs⟩ : s.book = l.book ∧ s.book.Silent :=
    Recorder.serveEach_modes depth hbefore rfl hsilent hadmits
  obtain ⟨hb', -, hreply⟩ := Recorder.serve_modes depth hq hb hs hr
  exact ⟨hb, hb', hreply⟩

/-- A capped registration, one that forbids what is left over, and calls of both. -/
def Recorder.parallelRun : List ((k : RequestKind) × Request k) :=
  [⟨_, .register true "op" ⟨[.any]⟩ (.returns (.bool true)) .once⟩,
    ⟨_, .register true "op" ⟨[.any]⟩ (.fails (.message "no")) .never⟩,
    ⟨_, .invoke true "op" [.null]⟩]

/-- The first call fills the cap. The second hits the expectation that forbids it, which only the
strict recorder reports at once. -/
theorem mode_changes_answers_only_parallel :
    let s := Recorder.serveEach .strict 1 Recorder.parallelRun ⟨.empty, [], none⟩
    let l := Recorder.serveEach .lenient 1 Recorder.parallelRun ⟨.empty, [], none⟩
    s.book = l.book ∧
      (Recorder.serve .strict 1 (.invoke true "op" [.null]) s).1 =
        .ok (.error (.unsatisfied "op" "_" .never 1)) ∧
      (Recorder.serve .lenient 1 (.invoke true "op" [.null]) l).1 =
        .ok (.error (.raised (.message "no"))) := by
  intro s l
  have hqs : ∀ q ∈ Recorder.parallelRun ++ [⟨_, .invoke true "op" [.null]⟩], q.2.Silent := by
    simp only [Recorder.parallelRun, List.cons_append, List.nil_append, List.forall_mem_cons]
    exact ⟨fun _ _ => ⟨_, rfl⟩, fun _ _ => ⟨_, rfl⟩, trivial, trivial, by simp⟩
  have hadmits : Recorder.Admits .strict 1
      (Recorder.parallelRun ++ [⟨_, .invoke true "op" [.null]⟩]) ⟨.empty, [], none⟩ := by
    refine ⟨?_, ?_, id, id, trivial⟩
    · rintro ⟨e, he⟩
      cases he
    · rintro ⟨e, he⟩
      cases he
  obtain ⟨hb, -, hstrict, r, hr, hlenient⟩ := mode_changes_answers_only 0 [] none _ hqs hadmits
    Recorder.parallelRun [] ⟨_, .invoke true "op" [.null]⟩ rfl
  refine ⟨hb, hstrict, hlenient.trans ?_⟩
  obtain rfl : .ok (.error (.raised (.message "no"))) = r := Option.some.inj hr
  rfl

end TestDouble
