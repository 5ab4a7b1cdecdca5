import TestDouble.Proofs.Recorder.Nesting
import TestDouble.Proofs.Recorder.Relevance
import TestDouble.Proofs.Recorder.Trace
import TestDouble.Proofs.Recorder.Verdict

/-!
# Callbacks in line

A call can set off a whole tree of requests: those of the callback that answers it, those of the
callbacks that answer these, and so on. `Recorder.served` lists the requests of the tree in the
order in which they began, each with what the recorder itself answered. To *hush* an outcome is to
replace its callback by one that does nothing. Doing the hushed requests of the list one after
another on the hushed book leads to the hushed book that the tree leads to, and the recorder answers
each as it did in the tree (`callbacks_linearise`).
-/

namespace TestDouble

/-! ### Hushing -/

/-- The outcome with a callback that does nothing in the place of its callback. -/
def Outcome.hushed : Outcome → Outcome
  | returns v => returns v
  | fails failure => fails failure
  | callback _ => callback fun _ _ => .done (.ok .null)

/-- The expectation with its outcome hushed. -/
def Expectation.hushed (e : Expectation) : Expectation := { e with outcome := e.outcome.hushed }

/-- The book with all outcomes hushed. -/
def Book.hushed (b : Book) : Book := { b with expectations := b.expectations.map .hushed }

/-- The request with the outcome hushed that it registers. -/
def Request.hushed : {k : RequestKind} → Request k → Request k
  | _, .register saturate operation matcher outcome times =>
    .register saturate operation matcher outcome.hushed times
  | _, .invoke saturate operation arguments => .invoke saturate operation arguments
  | _, .verify operation matcher times => .verify operation matcher times
  | _, .verifyAll => .verifyAll
  | _, .verifyNoOtherCalls => .verifyNoOtherCalls
  | _, .calls => .calls
  | _, .expectations => .expectations
  | _, .reset => .reset

/-- Look-ups do not notice the hush. -/
theorem Expectation.hushed_relabels : Relabels hushed := by
  constructor <;> intro e <;> rfl

namespace Book

variable {saturate : Bool} {operation : String} {arguments : List Json} {matcher : ArgumentMatcher}

@[simp] theorem hushed_expectations (b : Book) :
    b.hushed.expectations = b.expectations.map .hushed := rfl

@[simp] theorem hushed_calls (b : Book) : b.hushed.calls = b.calls := rfl

theorem hushed_add (b : Book) (operation : String) (matcher : ArgumentMatcher)
    (outcome : Outcome) (times : Times) :
    (b.add operation matcher outcome times).hushed =
      b.hushed.add operation matcher outcome.hushed times := by
  simp [Book.hushed, add, Expectation.hushed]

/-- A call is recorded in the same way on the hushed book. -/
theorem record_hushed (b : Book) :
    b.hushed.record saturate operation arguments =
      ((b.record saturate operation arguments).1.map (Option.map .hushed),
        (b.record saturate operation arguments).2.hushed) := by
  simp only [record, hushed_expectations, route_map Expectation.hushed_relabels]
  cases route saturate operation arguments b.expectations with
  | error c => rfl
  | ok p =>
    simp only [Except.map, Option.map_map]
    rfl

/-- Calls are verified in the same way on the hushed book. -/
theorem verify_hushed (b : Book) (times : Times) :
    b.hushed.verify operation matcher times =
      (b.verify operation matcher times).map fun p => (p.1, p.2.hushed) := by
  simp only [verify, hushed_calls]
  cases tally operation matcher b.calls with
  | error c => rfl
  | ok p =>
    dsimp only
    split <;> rfl

@[simp] theorem violations_hushed (b : Book) : b.hushed.violations = b.violations := by
  simp only [violations, hushed_expectations, List.filter_map, List.map_map]
  rfl

@[simp] theorem strayCalls_hushed (b : Book) : b.hushed.strayCalls = b.strayCalls := rfl

end Book

/-! ### The recorder's own part

With no depth left a recorder does nothing but its own part of a request. -/

namespace Recorder

variable {mode : Mode} {d f : Desk}

theorem register_hushed (saturate : Bool) (operation : String) (matcher : ArgumentMatcher)
    (outcome : Outcome) (times : Times) (hf : f.book = d.book.hushed) :
    (register mode saturate operation matcher outcome.hushed times f).1 =
        (register mode saturate operation matcher outcome times d).1 ∧
      (register mode saturate operation matcher outcome.hushed times f).2.book =
        (register mode saturate operation matcher outcome times d).2.book.hushed := by
  simp only [register, hf, Book.hushed_expectations,
    Book.shadowOf_map Expectation.hushed_relabels]
  cases Book.shadowOf saturate operation matcher d.book.expectations with
  | error c => exact ⟨rfl, hf⟩
  | ok shadow =>
    cases shadow with
    | none => exact ⟨rfl, (d.book.hushed_add operation matcher outcome times).symm⟩
    | some existing =>
      cases mode with
      | strict => exact ⟨rfl, hf⟩
      | lenient => exact ⟨rfl, (d.book.hushed_add operation matcher outcome times).symm⟩

theorem record_hushed (mode : Mode) (saturate : Bool) (operation : String) (arguments : List Json)
    (hf : f.book = d.book.hushed) :
    (record mode saturate operation arguments f).1 =
        (record mode saturate operation arguments d).1.map (Option.map .hushed) ∧
      (record mode saturate operation arguments f).2.book =
        (record mode saturate operation arguments d).2.book.hushed := by
  simp only [record, hf, Book.record_hushed]
  rcases d.book.record saturate operation arguments with ⟨c | hit, b⟩ <;> exact ⟨rfl, rfl⟩

/-- On the hushed book a call is handed on exactly when it was before, to a program that does
nothing. -/
theorem handed?_hushed (mode : Mode) {k : RequestKind} (q : Request k)
    (hf : f.book = d.book.hushed) :
    match handed? mode q d with
    | none => handed? mode q.hushed f = none
    | some (_, d') =>
      ∃ f', handed? mode q.hushed f = some (.done (.ok .null), f') ∧ f'.book = d'.book.hushed := by
  cases q with
  | invoke saturate operation arguments =>
    obtain ⟨hhit, hbook⟩ := record_hushed mode saturate operation arguments hf
    simp only [Request.hushed, handed?]
    revert hhit hbook
    rcases record mode saturate operation arguments d with ⟨stop | hit, d'⟩ <;>
      rcases record mode saturate operation arguments f with ⟨stop' | hit', f'⟩ <;>
      intro hhit hbook
    · rfl
    · cases hhit
    · cases hhit
    · obtain rfl : hit' = hit.map .hushed := Except.ok.inj hhit
      cases hit with
      | none => rfl
      | some e =>
        dsimp only [Option.map_some, Expectation.hushed]
        split_ifs
        · rfl
        · cases e.outcome with
          | returns v => rfl
          | fails failure => rfl
          | callback body => exact ⟨f', rfl, hbook⟩
  | _ => rfl

/-- The recorder does its own part of a hushed request on the hushed book as it does that of the
request itself. -/
theorem serve_zero_hushed {k : RequestKind} (q : Request k) (hf : f.book = d.book.hushed) :
    (serve mode 0 q.hushed f).1 = (serve mode 0 q d).1 ∧
      (serve mode 0 q.hushed f).2.book = (serve mode 0 q d).2.book.hushed := by
  cases q with
  | register saturate operation matcher outcome times =>
    rw [Request.hushed, serve, serve]
    exact register_hushed saturate operation matcher outcome times hf
  | invoke saturate operation arguments =>
    obtain ⟨hhit, hbook⟩ := record_hushed mode saturate operation arguments hf
    simp only [Request.hushed, serve, invoke]
    revert hhit hbook
    rcases record mode saturate operation arguments d with ⟨stop | hit, d'⟩ <;>
      rcases record mode saturate operation arguments f with ⟨stop' | hit', f'⟩ <;>
      intro hhit hbook
    · obtain rfl : stop' = stop := Except.error.inj hhit
      exact ⟨rfl, hbook⟩
    · cases hhit
    · cases hhit
    · obtain rfl : hit' = hit.map .hushed := Except.ok.inj hhit
      cases hit with
      | none => exact ⟨rfl, hbook⟩
      | some e =>
        dsimp only [Option.map_some, Expectation.hushed]
        split_ifs
        · exact ⟨rfl, hbook⟩
        · cases e.outcome <;> exact ⟨rfl, hbook⟩
  | verify operation matcher times =>
    rw [Request.hushed, serve, serve, verify, verify, hf, Book.verify_hushed]
    cases d.book.verify operation matcher times with
    | error c => exact ⟨rfl, hf⟩
    | ok p => exact ⟨rfl, rfl⟩
  | verifyAll =>
    rw [Request.hushed, serve_verifyAll, serve_verifyAll, hf, Book.violations_hushed, serve, serve]
    exact ⟨rfl, hf⟩
  | verifyNoOtherCalls =>
    rw [Request.hushed, serve_verifyNoOtherCalls, serve_verifyNoOtherCalls, hf,
      Book.strayCalls_hushed, serve, serve]
    exact ⟨rfl, hf⟩
  | calls =>
    rw [Request.hushed, serve, serve]
    exact ⟨by rw [hf, Book.hushed_calls], hf⟩
  | expectations =>
    rw [Request.hushed, serve, serve]
    exact ⟨by rw [hf, Book.hushed_expectations, List.map_map]; rfl, hf⟩
  | reset =>
    rw [Request.hushed, serve, serve]
    exact ⟨rfl, rfl⟩

end Recorder

/-! ### The requests in the order in which they began -/

/-- A request that was served, with the answer if it is the recorder's own; a call that is handed on
is answered by a callback. -/
structure Served where
  {kind : RequestKind}
  request : Request kind
  answer : Option (Except Stop kind.Reply)

namespace Served

/-- The hushed request. -/
def flat (s : Served) : (k : RequestKind) × Request k := ⟨s.kind, s.request.hushed⟩

/-- The hushed request with the same answer. -/
def hushed (s : Served) : Served := ⟨s.request.hushed, s.answer⟩

end Served

namespace Recorder

/-- The requests that serving a request serves, in the order in which they began: the request
itself, and if it is handed on, those that the program it is handed on to gets to, each with all
that serving it serves. -/
def served (mode : Mode) (depth : Nat) {k : RequestKind} (q : Request k) (d : Desk) : List Served :=
  match handed? mode q d with
  | none => [⟨q, some (serve mode depth q d).1⟩]
  | some (p, d) =>
    ⟨q, none⟩ ::
      match depth with
      | 0 => []
      | depth + 1 =>
        (p.visits (serve mode depth) d).flatMap fun v => served mode depth v.request v.desk

/-- The requests that serving several requests one after another serves. -/
def servedEach (mode : Mode) (depth : Nat) :
    List ((k : RequestKind) × Request k) → Desk → List Served
  | [], _ => []
  | q :: qs, d => served mode depth q.2 d ++ servedEach mode depth qs (serve mode depth q.2 d).2

variable {mode : Mode} {depth : Nat} {k : RequestKind} {q : Request k} {d d' d'' f : Desk}
  {p : Recording (Except Failure Json)}

theorem served_of_handed?_eq_none (h : handed? mode q d = none) :
    served mode depth q d = [⟨q, some (serve mode depth q d).1⟩] := by
  unfold served
  rw [h]

theorem served_zero_of_handed? (h : handed? mode q d = some (p, d')) :
    served mode 0 q d = [⟨q, none⟩] := by
  unfold served
  rw [h]

theorem served_succ_of_handed? (h : handed? mode q d = some (p, d')) :
    served mode (depth + 1) q d = ⟨q, none⟩ ::
      (p.visits (serve mode depth) d').flatMap fun v => served mode depth v.request v.desk := by
  rw [served, h]

theorem servedEach_append (mode : Mode) (depth : Nat) (qs rs : List ((k : RequestKind) × Request k))
    (d : Desk) :
    servedEach mode depth (qs ++ rs) d =
      servedEach mode depth qs d ++ servedEach mode depth rs (serveEach mode depth qs d) := by
  induction qs generalizing d with
  | nil => rfl
  | cons q qs ih =>
    rw [List.cons_append, servedEach, ih, servedEach, List.append_assoc]
    rfl

/-! ### Serving in line

The requests of a tree are *in line* with it if doing them one after another, hushed, leads to the
same book and gets the same answers from the recorder. -/

/-- Requests that took one desk to another are in line with that: done one after another, hushed,
they lead from the hushed book to the hushed book, and the recorder answers each as before. -/
structure InLine (mode : Mode) (d d' : Desk) (ss : List Served) : Prop where
  book : ∀ depth f, f.book = d.book.hushed →
    (serveEach mode depth (ss.map Served.flat) f).book = d'.book.hushed
  answers : ∀ depth f, f.book = d.book.hushed →
    servedEach mode depth (ss.map Served.flat) f = ss.map Served.hushed

namespace InLine

variable {ss ts : List Served}

theorem refl (d : Desk) : InLine mode d d [] := ⟨fun _ _ hf => hf, fun _ _ _ => rfl⟩

theorem trans (h : InLine mode d d' ss) (h' : InLine mode d' d'' ts) :
    InLine mode d d'' (ss ++ ts) where
  book depth f hf := by
    rw [List.map_append, serveEach, List.foldl_append]
    exact h'.book depth _ (h.book depth f hf)
  answers depth f hf := by
    rw [List.map_append, servedEach_append, h.answers depth f hf,
      h'.answers depth _ (h.book depth f hf), List.map_append]

/-- A request that is not handed on is in line. -/
theorem own (h : handed? mode q d = none) :
    InLine mode d (serve mode depth q d).2 [⟨q, some (serve mode depth q d).1⟩] := by
  -- the hushed request is not handed on either, so both are answered as with no depth left
  have hq : ∀ depth' f, f.book = d.book.hushed → handed? mode q.hushed f = none ∧
      (serve mode depth' q.hushed f).1 = (serve mode depth q d).1 ∧
      (serve mode depth' q.hushed f).2.book = (serve mode depth q d).2.book.hushed := by
    intro depth' f hf
    have hf' := handed?_hushed mode q hf
    rw [h] at hf'
    rw [serve_of_handed?_eq_none hf', serve_of_handed?_eq_none h]
    exact ⟨hf', serve_zero_hushed q hf⟩
  constructor
  · intro depth' f hf
    exact (hq depth' f hf).2.2
  · intro depth' f hf
    obtain ⟨hf', hreply, -⟩ := hq depth' f hf
    simp only [List.map_cons, List.map_nil, Served.flat, Served.hushed, servedEach,
      List.append_nil, served_of_handed?_eq_none hf', hreply]

/-- A request that is handed on is in line up to there. -/
theorem handed (h : handed? mode q d = some (p, d')) : InLine mode d d' [⟨q, none⟩] := by
  have hq : ∀ f, f.book = d.book.hushed → ∃ f',
      handed? mode q.hushed f = some (.done (.ok .null), f') ∧ f'.book = d'.book.hushed := by
    intro f hf
    have hf' := handed?_hushed mode q hf
    rwa [h] at hf'
  constructor
  · intro depth f hf
    obtain ⟨f', hf', hbook⟩ := hq f hf
    -- a callback that does nothing leaves the desk as it is
    have hdesk : (serve mode depth q.hushed f).2 = f' := by
      cases depth with
      | zero => rw [serve_zero_of_handed? hf']
      | succ depth => rw [serve_desk_of_handed? depth hf', Program.run]
    rw [← hbook, ← hdesk]
    rfl
  · intro depth f hf
    obtain ⟨f', hf', -⟩ := hq f hf
    have hserved : served mode depth q.hushed f = [⟨q.hushed, none⟩] := by
      cases depth with
      | zero => exact served_zero_of_handed? hf'
      | succ depth => rw [served_succ_of_handed? hf', Program.visits, List.flatMap_nil]
    simp only [List.map_cons, List.map_nil, Served.flat, Served.hushed, servedEach,
      List.append_nil, hserved]

/-- A program is in line if its requests are. -/
theorem run {α : Type} {serve : {k : RequestKind} → Request k → Desk → Except Stop k.Reply × Desk}
    {served : {k : RequestKind} → Request k → Desk → List Served}
    (hserve : ∀ {k : RequestKind} (q : Request k) (d : Desk),
      InLine mode d (serve q d).2 (served q d))
    (p : Recording α) (d : Desk) :
    InLine mode d (p.run serve d).2
      ((p.visits serve d).flatMap fun v => served v.request v.desk) := by
  induction p generalizing d with
  | done a => exact refl d
  | crash c => exact refl d
  | report e rest ih =>
    obtain ⟨hbook, hanswers⟩ := ih { d with reported := some e }
    exact ⟨hbook, hanswers⟩
  | ask q next ih =>
    have hq := hserve q d
    simp only [Program.run, Program.visits, List.flatMap_cons]
    rcases hr : serve q d with ⟨stop | reply, d'⟩
    · rw [hr] at hq
      rwa [List.flatMap_nil, List.append_nil]
    · rw [hr] at hq
      exact hq.trans (ih reply d')

end InLine

/-- **The requests that serving a request serves are in line with it**, however deep callbacks are
nested, and whether it is answered, crashes or is stopped. -/
theorem served_inLine (mode : Mode) (depth : Nat) {k : RequestKind} (q : Request k) (d : Desk) :
    InLine mode d (serve mode depth q d).2 (served mode depth q d) := by
  induction depth generalizing k q d with
  | zero =>
    cases h : handed? mode q d with
    | none =>
      rw [served_of_handed?_eq_none h]
      exact .own h
    | some p =>
      rw [served_zero_of_handed? h, serve_zero_of_handed? h]
      exact .handed h
  | succ depth ih =>
    cases h : handed? mode q d with
    | none =>
      rw [served_of_handed?_eq_none h]
      exact .own h
    | some p =>
      rw [served_succ_of_handed? h, serve_desk_of_handed? depth h, ← List.singleton_append]
      exact (InLine.handed h).trans (.run (fun q d => ih q d) p.1 p.2)

end Recorder

/-- **Callbacks in line.** Take any call on any book, set off whatever it may. Done one after
another in the order in which they began, with every callback replaced by one that does nothing, the
requests that serving the call serves lead to the same book, outcomes aside, and the recorder
answers each of them as it did before. What a callback answers the call with is what the call is
answered, a failure being raised. -/
theorem callbacks_linearise (mode : Mode) (depth flatDepth : Nat) (saturate : Bool)
    (operation : String) (arguments : List Json) (d : Desk) (diagnostics : List Diagnostic)
    (reported : Option TestError) :
    let call : Request .invocation := .invoke saturate operation arguments
    let tree := Recorder.served mode depth call d
    let flat := tree.map Served.flat
    let start : Desk := ⟨d.book.hushed, diagnostics, reported⟩
    (Recorder.serveEach mode flatDepth flat start).book =
        (Recorder.serve mode depth call d).2.book.hushed ∧
      Recorder.servedEach mode flatDepth flat start = tree.map Served.hushed ∧
      ∀ body begun, Recorder.handed? mode call d = some (body, begun) →
        (Recorder.serve mode (depth + 1) call d).1 =
          (body.run (Recorder.serve mode depth) begun).1.map (Except.mapError .raised) := by
  intro call tree flat start
  have hline : Recorder.InLine mode d (Recorder.serve mode depth call d).2 tree :=
    Recorder.served_inLine mode depth call d
  refine ⟨hline.book flatDepth start rfl, hline.answers flatDepth start rfl, ?_⟩
  intro body begun h
  rw [Recorder.serve_of_handed? depth h]

/-- A callback that makes the call again that it answers, and then forgets everything. -/
def Callback.reentrant : Callback := fun _ arguments =>
  .ask (.invoke true "op" arguments) fun _ => .ask .reset fun _ => .done (.ok (.bool true))

/-- The call fills the cap, the call inside it is nobody's, and the reset forgets both; the outer
call is still answered by its callback. -/
theorem callbacks_linearise_reentrant :
    let call : Request .invocation := .invoke true "op" [.null]
    let d : Desk :=
      .ofBook ⟨[⟨0, "op", ⟨[.any]⟩, .callback Callback.reentrant, .once, 0⟩], [], 1, 0⟩
    let flat := (Recorder.served .lenient 1 call d).map Served.flat
    let start : Desk := ⟨d.book.hushed, [], none⟩
    (Recorder.serveEach .lenient 1 flat start).book = .empty ∧
      Recorder.servedEach .lenient 1 flat start =
        [⟨call, none⟩, ⟨call, some (.ok (.ok .null))⟩, ⟨.reset, some (.ok ())⟩] ∧
      (Recorder.serve .lenient 2 call d).1 = .ok (.ok (.bool true)) := by
  intro call d flat start
  obtain ⟨hbook, hanswers, houter⟩ :=
    callbacks_linearise .lenient 1 1 true "op" [.null] d [] none
  exact ⟨hbook.trans rfl, hanswers.trans rfl, (houter _ _ rfl).trans rfl⟩

end TestDouble
