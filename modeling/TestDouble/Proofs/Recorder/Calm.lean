import TestDouble.Proofs.Recorder.Accounting
import TestDouble.Proofs.Recorder.Answer
import TestDouble.Proofs.Recorder.Silence

/-!
# Recorders on which every call is answered

A book is *calm* if none of its predicates crashes, and none of its outcomes crashes or asks anything
of the recorder. On a calm book a call always ends. `Recorder.Replies` lists the ways in which it
can, by what the look-up has found, and `serve_replies` says that it ends in one of them. Whatever
calls are made, each is added to the book (`Book.Calm.exists_added`), and the book stays calm
(`Book.Calm.play`).
-/

namespace TestDouble

/-- The outcome answers every call, and asks nothing of the recorder for that. -/
def Outcome.Calm (o : Outcome) : Prop :=
  ∀ answered arguments, ∃ reply, o.reply? answered arguments = some (.ok reply)

theorem Outcome.Calm.silent {o : Outcome} (h : o.Calm) : o.Silent := fun answered arguments =>
  (h answered arguments).imp' .ok fun _ hr => hr

/-- Outcomes fail with nothing but what they were told to fail with. -/
theorem Outcome.exists_raised {o : Outcome} {answered : Nat} {arguments : List Json} {e : TestError}
    (h : o.reply? answered arguments = some (.ok (.error e))) : ∃ failure, e = .raised failure := by
  cases o with
  | returns v => simp [reply?] at h
  | fails failure =>
    refine ⟨failure, ?_⟩
    simpa [reply?, eq_comm] using h
  | callback body =>
    obtain ⟨result, -, hr⟩ := Option.map_eq_some_iff.mp h
    rcases result with c | failure | v
    · cases hr
    · obtain rfl : TestError.raised failure = e := by simpa [Except.map, Except.mapError] using hr
      exact ⟨failure, rfl⟩
    · simp [Except.map, Except.mapError] at hr

/-- No predicate of the turn crashes, and its outcome answers every call. -/
def Turn.Calm : Turn → Prop
  | .register _ _ matcher outcome _ => matcher.Total ∧ outcome.Calm
  | .call .. => True
  | .verify .. => True
  | .reset => True

/-- What a turn calls, if it is a call. -/
def Turn.called? : Turn → Option (String × List Json)
  | .call _ operation arguments => some (operation, arguments)
  | _ => none

/-- A call registers nothing. -/
theorem Turn.calm_of_called? {t : Turn} (h : t.called?.isSome) : t.Calm := by
  cases t with
  | register => simp [called?] at h
  | call => trivial
  | verify => trivial
  | reset => trivial

/-- A call that may be followed by another. -/
theorem Turn.called_then {t u : Turn} (ht : t.called?.isSome) (hu : u.called?.isSome)
    {followed : Bool} : ∀ x ∈ t :: if followed then [u] else [], x.called?.isSome := by
  cases followed <;> simp [ht, hu]

/-- Matchers answer, and so do outcomes, without asking anything of the recorder. -/
structure Book.Calm (b : Book) : Prop where
  total : ∀ e ∈ b.expectations, e.matcher.Total
  calm : ∀ e ∈ b.expectations, e.outcome.Calm

namespace Book.Calm

variable {b : Book}

theorem empty : Book.empty.Calm := by constructor <;> simp [Book.empty]

theorem silent (h : b.Calm) : b.Silent := fun e he => (h.calm e he).silent

theorem step (mode : Mode) {t : Turn} (ht : t.Calm) (h : b.Calm) : (t.step mode b).Calm where
  total := Turn.step_forall (P := fun e => e.matcher.Total) mode
    (fun _ _ _ _ _ _ hr => by subst hr; exact ht.1) (fun _ _ _ _ _ _ he => he) h.total
  calm := Turn.step_forall (P := fun e => e.outcome.Calm) mode
    (fun _ _ _ _ _ _ hr => by subst hr; exact ht.2) (fun _ _ _ _ _ _ he => he) h.calm

theorem play (mode : Mode) {ts : List Turn} (hts : ∀ t ∈ ts, t.Calm) (h : b.Calm) :
    (Turn.play mode ts b).Calm :=
  Turn.play_invariant (fun _ _ ht hb => step mode ht hb) hts h

/-- No look-up in a calm book crashes. -/
theorem exists_hit (h : b.Calm) (saturate : Bool) (operation : String) (arguments : List Json) :
    ∃ hit, (b.record saturate operation arguments).1 = .ok hit := by
  cases hr : (b.record saturate operation arguments).1 with
  | ok hit => exact ⟨hit, rfl⟩
  | error c =>
    obtain ⟨e, he, hcrash⟩ := Book.record_error hr
    obtain ⟨v, hv⟩ := h.total e he arguments
    unfold Expectation.accepts at hcrash
    split_ifs at hcrash
    rw [hv] at hcrash
    cases hcrash

/-- **Calls are added** one after another, and no other calls. -/
theorem exists_added (mode : Mode) {ts : List Turn} (hts : ∀ t ∈ ts, t.called?.isSome)
    (h : b.Calm) :
    ∃ added, (Turn.play mode ts b).calls = b.calls ++ added ∧
      added.map RecordedCall.content = ts.filterMap Turn.called? := by
  induction ts generalizing b with
  | nil => exact ⟨[], (List.append_nil _).symm, rfl⟩
  | cons t ts ih =>
    obtain ⟨ht, hts⟩ := List.forall_mem_cons.mp hts
    obtain ⟨added, hadded, hcontent⟩ := ih hts (h.step mode (Turn.calm_of_called? ht))
    cases t with
    | register | verify | reset => simp [Turn.called?] at ht
    | call saturate operation arguments =>
      obtain ⟨hit, hhit⟩ := h.exists_hit saturate operation arguments
      obtain ⟨c, hc, hoperation, harguments⟩ := Book.record_calls hhit
      refine ⟨c :: added, ?_, ?_⟩
      · rw [Turn.play_cons, hadded, Turn.step_call, hc, List.append_assoc, List.singleton_append]
      · rw [List.map_cons, hcontent, RecordedCall.content, hoperation, harguments]
        rfl

end Book.Calm

namespace Recorder

/-- The ways in which a recorder answers a call if nothing crashes, by the expectation that the
look-up has found. -/
inductive Replies (mode : Mode) (operation : String) (arguments : List Json) :
    Option Expectation → Except TestError Json → Prop where
  /-- Nobody takes the call, and the recorder is strict. -/
  | unexpected : mode = .strict →
    Replies mode operation arguments none (.error (.unexpectedCall operation arguments))
  /-- Nobody takes the call, and the recorder is lenient. -/
  | unmatched : mode = .lenient → Replies mode operation arguments none (.ok .null)
  /-- The call is forbidden, and the recorder is strict. The count includes the call. -/
  | forbidden {e : Expectation} : mode = .strict → e.times.forbidsCalls = true →
    Replies mode operation arguments (some e) (.error e.violation)
  /-- The outcome fails. -/
  | raised {e : Expectation} {failure : Failure} : (mode = .strict → e.times.forbidsCalls = false) →
    e.outcome.reply? (e.consumed - 1) arguments = some (.ok (.error (.raised failure))) →
    Replies mode operation arguments (some e) (.error (.raised failure))
  /-- The outcome gives a value. -/
  | returned {e : Expectation} {v : Json} : (mode = .strict → e.times.forbidsCalls = false) →
    e.outcome.reply? (e.consumed - 1) arguments = some (.ok (.ok v)) →
    Replies mode operation arguments (some e) (.ok v)

variable {mode : Mode} {saturate : Bool} {operation : String} {arguments : List Json} {d : Desk}

/-- An outcome that runs gives the reply. -/
theorem Replies.of_outcome {e : Expectation} {reply : Except TestError Json}
    (hruns : mode = .strict → e.times.forbidsCalls = false)
    (hreply : e.outcome.reply? (e.consumed - 1) arguments = some (.ok reply)) :
    Replies mode operation arguments (some e) reply := by
  cases reply with
  | ok v => exact .returned hruns hreply
  | error err =>
    obtain ⟨failure, rfl⟩ := Outcome.exists_raised hreply
    exact .raised hruns hreply

/-- What hits an expectation that forbids it on a strict recorder has no other reply. -/
theorem Replies.of_forbidden {e : Expectation} {reply : Except TestError Json}
    (h : Replies .strict operation arguments (some e) reply) (hforbids : e.times.forbidsCalls = true) :
    reply = .error e.violation := by
  cases h with
  | forbidden => rfl
  | raised hruns | returned hruns => exact absurd ((hruns rfl).symm.trans hforbids) Bool.false_ne_true

/-- **On a calm book a call is answered**, in one of the ways in which calls are. -/
theorem serve_replies (mode : Mode) (depth : Nat) (hd : d.book.Calm) (saturate : Bool)
    (operation : String) (arguments : List Json) :
    ∃ hit reply,
      (d.book.record saturate operation arguments).1 = .ok hit ∧
      Replies mode operation arguments hit reply ∧
      (serve mode (depth + 1) (.invoke saturate operation arguments) d).1 = .ok reply := by
  obtain ⟨hit, hhit⟩ := hd.exists_hit saturate operation arguments
  have hr : d.book.record saturate operation arguments =
      (.ok hit, (d.book.record saturate operation arguments).2) := Prod.ext hhit rfl
  cases hit with
  | none =>
    refine ⟨none, _, hhit, ?_, serve_invoke_none (depth + 1) rfl hr⟩
    cases mode with
    | strict => exact .unexpected rfl
    | lenient => exact .unmatched rfl
  | some e =>
    cases hf : e.times.forbidsCalls && mode.isStrict with
    | true =>
      refine ⟨some e, .error e.violation, hhit, ?_, ?_⟩
      · rw [Bool.and_eq_true] at hf
        refine .forbidden ?_ hf.1
        cases mode with
        | strict => rfl
        | lenient => exact absurd hf.2 Bool.false_ne_true
      · rw [serve_invoke_forbidden (depth + 1) rfl hr hf]
    | false =>
      have hcalm : e.outcome.Calm :=
        (Book.Calm.step mode (t := .call saturate operation arguments) trivial hd).calm e
          (Book.record_mem hhit)
      obtain ⟨reply, hreply⟩ := hcalm (e.consumed - 1) arguments
      refine ⟨some e, reply, hhit, .of_outcome (fun hmode => ?_) hreply, ?_⟩
      · rw [hmode] at hf
        simpa [Mode.isStrict] using hf
      · rw [serve_invoke_apply depth rfl hr hf, apply_silent hreply]
        rfl

end Recorder
end TestDouble
