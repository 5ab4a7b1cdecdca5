import TestDouble.Harness
import TestDouble.Proofs.Recorder.Growth

/-!
# The teardown of a harness

A harness that is dropped is verified once more, unless it has as many calls and expectations as
when it was verified last. The lists grow with every turn that adds something, so without a reset
the same numbers mean that nothing was added (`Turn.sizes_eq_iff_of_no_reset`). A reset empties the
lists, and they can grow back to the lengths they had: `Turn.Regrown`. This is the one way in which
a harness is dropped unverified though something was added, as `drop_audits_unless_regrown` says.
-/

namespace TestDouble

/-- The numbers of calls and of expectations. -/
def Book.sizes (b : Book) : Nat × Nat := (b.calls.length, b.expectations.length)

/-- Lists of which nothing is lost get no shorter. -/
theorem Book.Extends.sizes_le {b b' : Book} (h : b.Extends b') :
    b.sizes.1 ≤ b'.sizes.1 ∧ b.sizes.2 ≤ b'.sizes.2 := by
  have hcalls := h.calls.length_le
  have hexpectations := h.expectations.length_le
  rw [List.length_map, List.length_map] at hcalls hexpectations
  exact ⟨hcalls, hexpectations⟩

namespace Turn

/-- The turn registers an expectation or records a call. -/
def Adds (mode : Mode) (b : Book) (t : Turn) : Prop :=
  b.sizes.1 < (t.step mode b).sizes.1 ∨ b.sizes.2 < (t.step mode b).sizes.2

/-- One of the turns registers an expectation or records a call. -/
def Added (mode : Mode) : List Turn → Book → Prop
  | [], _ => False
  | t :: ts, b => t.Adds mode b ∨ Added mode ts (t.step mode b)

/-- The book was reset, and since then it has become as long as it was before the turns. -/
def Regrown (mode : Mode) (ts : List Turn) (b : Book) : Prop :=
  ∃ l r, ts = l ++ .reset :: r ∧ .reset ∉ r ∧ (play mode r .empty).sizes = b.sizes

variable {mode : Mode} {b : Book} {t : Turn} {ts : List Turn}

/-- **Without a reset the same numbers mean that nothing was added.** -/
theorem sizes_eq_iff_of_no_reset (mode : Mode) (b : Book) (hts : .reset ∉ ts) :
    (play mode ts b).sizes = b.sizes ↔ ¬ Added mode ts b := by
  induction ts generalizing b with
  | nil => simp [Added]
  | cons t ts ih =>
    rw [List.mem_cons, not_or] at hts
    obtain ⟨ht, hts⟩ := hts
    obtain ⟨h₁, h₂⟩ := (step_extends mode b (Ne.symm ht)).sizes_le
    obtain ⟨h₃, h₄⟩ := (play_extends mode (t.step mode b) hts).sizes_le
    have hih := ih (t.step mode b) hts
    -- no turn takes back what an earlier one added, so equal ends mean equal steps
    rw [Prod.ext_iff] at hih ⊢
    rw [play_cons, Added, not_or, ← hih, Adds]
    omega

/-- After a reset only the turns since then count. -/
theorem play_reset (mode : Mode) (l r : List Turn) (b : Book) :
    play mode (l ++ .reset :: r) b = play mode r .empty := by
  rw [play_append, play_cons, step_reset]

/-- A list of turns with a reset has a last one. -/
theorem exists_last_reset (h : .reset ∈ ts) : ∃ l r, ts = l ++ .reset :: r ∧ .reset ∉ r := by
  -- the first one of the reversed list
  obtain ⟨l, r, hts, hl⟩ := List.eq_append_cons_of_mem (List.mem_reverse.mpr h)
  refine ⟨r.reverse, l.reverse, ?_, fun hmem => hl (List.mem_reverse.mp hmem)⟩
  rw [← List.reverse_reverse ts, hts]
  simp

/-- With a reset the same numbers mean that the lists have grown back. -/
theorem sizes_eq_iff_of_reset (mode : Mode) (b : Book) (hts : .reset ∈ ts) :
    (play mode ts b).sizes = b.sizes ↔ Regrown mode ts b := by
  constructor
  · intro h
    obtain ⟨l, r, rfl, hr⟩ := exists_last_reset hts
    rw [play_reset] at h
    exact ⟨l, r, rfl, hr, h⟩
  · rintro ⟨l, r, rfl, -, h⟩
    rwa [play_reset]

end Turn

/-! ### Verifying a harness -/

namespace Bench

/-- Verifies the harness; a failure is a crash. -/
def audit : BenchM Unit := do
  match ← verify with
  | .ok () => return
  | .error e => crash ("Test harness verification failed: " ++ e.message)

/-- What a verification has to report. -/
def failures (b : Bench) : List TestError :=
  b.book.violations ++ if b.config.verifyNoOtherCalls then b.book.strayCalls else []

variable {α β : Type} {b b' : Bench}

/-- What comes after an action that succeeds. -/
theorem bind_eq {x : BenchM α} {f : α → BenchM β} {a : α} (h : x b = (.ok a, b')) :
    (x >>= f) b = f a b' := by
  simp only [bind, ExceptT.bind, ExceptT.mk, StateT.bind, h, ExceptT.bindCont]

@[simp] theorem get_bind (f : Bench → BenchM β) (b : Bench) :
    ((get : BenchM Bench) >>= f) b = f b b := rfl

@[simp] theorem modify_bind (g : Bench → Bench) (f : Unit → BenchM β) (b : Bench) :
    ((modify g : BenchM Unit) >>= f) b = f () (g b) := rfl

@[simp] theorem pure_apply (a : α) (b : Bench) : (pure a : BenchM α) b = (.ok a, b) := rfl

theorem perform_verifyAll (h : Handle) (b : Bench) : ∃ journal,
    perform h.verifyAll b = (.ok (TestError.collect b.book.violations), { b with journal }) := by
  simp only [perform, Handle.verifyAll, Recording.request, Recorder.run, Program.run,
    Recorder.serve, Recorder.verifyAll, Desk.tell]
  exact ⟨_, rfl⟩

theorem perform_verifyNoOtherCalls (h : Handle) (b : Bench) : ∃ journal,
    perform h.verifyNoOtherCalls b =
      (.ok (TestError.collect b.book.strayCalls), { b with journal }) := by
  simp only [perform, Handle.verifyNoOtherCalls, Recording.request, Recorder.run, Program.run,
    Recorder.serve, Recorder.verifyNoOtherCalls, Desk.tell]
  exact ⟨_, rfl⟩

/-- Folding failures that have no failures inside into a verdict loses none. -/
theorem verdictFailures_collect {es : List TestError} (h : ∀ e ∈ es, e.flatten = [e]) :
    verdictFailures (TestError.collect es) = es := by
  match es with
  | [] => rfl
  | [e] => exact h e List.mem_cons_self
  | _ :: _ :: _ => rfl

theorem verdictFailures_violations (b : Book) :
    verdictFailures (TestError.collect b.violations) = b.violations := by
  refine verdictFailures_collect fun e he => ?_
  obtain ⟨x, -, rfl⟩ := List.mem_map.mp he
  rfl

theorem verdictFailures_strayCalls (b : Book) :
    verdictFailures (TestError.collect b.strayCalls) = b.strayCalls := by
  refine verdictFailures_collect fun e he => ?_
  obtain ⟨x, -, rfl⟩ := List.mem_map.mp he
  rfl

/-- **A verification reports the failures** and remembers how long the lists are. -/
theorem verify_eq (b : Bench) : ∃ journal,
    verify b =
      (.ok (TestError.collect b.failures),
        { b with verifiedAt := some b.activity, journal }) := by
  obtain ⟨j₁, h₁⟩ := perform_verifyAll (Bench.handle { b with verifiedAt := some b.activity })
    { b with verifiedAt := some b.activity }
  obtain ⟨j₂, h₂⟩ := perform_verifyNoOtherCalls
    (Bench.handle { b with verifiedAt := some b.activity })
    { b with verifiedAt := some b.activity, journal := j₁ }
  rw [verify, modify_bind, get_bind]
  dsimp only
  rw [bind_eq h₁, get_bind]
  dsimp only
  split_ifs with hother
  · refine ⟨j₂, ?_⟩
    rw [bind_eq h₂, pure_apply, verdictFailures_violations, verdictFailures_strayCalls, failures,
      if_pos hother]
  · refine ⟨j₁, ?_⟩
    rw [bind_eq (pure_apply _ _), pure_apply, verdictFailures_violations, failures, if_neg hother]
    rfl

/-- An audit is a crash if there are failures. -/
theorem audit_eq (b : Bench) : (audit b).1 = (TestError.collect b.failures).mapError fun e =>
    .crashed ⟨"Test harness verification failed: " ++ e.message⟩ := by
  obtain ⟨journal, h⟩ := verify_eq b
  rw [audit, bind_eq h]
  cases TestError.collect b.failures with
  | ok => rfl
  | error e => rfl

/-- A harness that is dropped is audited if the lists have other lengths than at the last
verification. -/
theorem drop_eq (hdrop : b.config.verifyOnDrop = true) :
    drop b = if b.verifiedAt = some b.activity then (.ok (), b) else audit b := by
  rw [drop, get_bind, hdrop]
  by_cases hsame : b.verifiedAt = some b.activity
  · simp only [hsame, bne_self_eq_false, Bool.and_false, if_pos]
    rfl
  · have hne : (true && b.verifiedAt != some b.activity) = true := by simpa using hsame
    rw [if_pos hne, if_neg hsame]
    rfl

/-! ### Runs of a harness -/

/-- The harness after requests to its recorder, made by a test that goes on after a crash. -/
def asks (qs : List ((k : RequestKind) × Request k)) (b : Bench) : Bench :=
  qs.foldl (fun b q => (perform (Recording.request q.2) b).2) b

/-- The turns that the requests take. -/
def turns : List ((k : RequestKind) × Request k) → Bench → List Turn
  | [], _ => []
  | q :: qs, b =>
    Recorder.turns b.config.mode Recorder.nestingLimit q.2 ⟨b.book, [], b.reported⟩ ++
      turns qs (perform (Recording.request q.2) b).2

end Bench

/-- What a test does with its harness: it asks something of the recorder, or verifies. -/
inductive Deed where
  | ask {k : RequestKind} (q : Request k)
  | verify

namespace Bench

/-- The harness after one thing that a test does with it. -/
def does (b : Bench) : Deed → Bench
  | .ask q => (perform (Recording.request q) b).2
  | .verify => (verify b).2

/-- The harness after what a test does with it. -/
def after (deeds : List Deed) (b : Bench) : Bench := deeds.foldl does b

theorem perform_book {k : RequestKind} (q : Request k) (b : Bench) :
    (perform (Recording.request q) b).2.book =
      Turn.play b.config.mode
        (Recorder.turns b.config.mode Recorder.nestingLimit q ⟨b.book, [], b.reported⟩) b.book := by
  rw [← Recorder.serve_book b.config.mode Recorder.nestingLimit q ⟨b.book, [], b.reported⟩]
  simp only [perform, Recorder.run, Recording.request, Program.run]
  split <;> next h => rw [h]

/-- Requests take the book through their turns, and change neither the configuration nor what is
remembered of the last verification. -/
theorem asks_eq (qs : List ((k : RequestKind) × Request k)) (b : Bench) :
    (b.asks qs).book = Turn.play b.config.mode (b.turns qs) b.book ∧
      (b.asks qs).config = b.config ∧ (b.asks qs).verifiedAt = b.verifiedAt := by
  induction qs generalizing b with
  | nil => exact ⟨rfl, rfl, rfl⟩
  | cons q qs ih =>
    obtain ⟨hbook, hconfig, hverified⟩ := ih (perform (Recording.request q.2) b).2
    refine ⟨?_, hconfig, hverified⟩
    rw [turns, Turn.play_append, ← perform_book]
    exact hbook

/-- Requests after a verification: the harness remembers how long the lists were then. -/
theorem asks_verify_eq (qs : List ((k : RequestKind) × Request k)) (v : Bench) :
    ((verify v).2.asks qs).book = Turn.play v.config.mode ((verify v).2.turns qs) v.book ∧
      ((verify v).2.asks qs).config = v.config ∧
      ((verify v).2.asks qs).verifiedAt = some v.activity := by
  have hrun := (verify v).2.asks_eq qs
  obtain ⟨journal, h⟩ := verify_eq v
  rw [h] at hrun ⊢
  exact hrun

/-- Nothing that a test does changes the configuration. -/
theorem after_config (deeds : List Deed) (b : Bench) : (b.after deeds).config = b.config := by
  induction deeds generalizing b with
  | nil => rfl
  | cons deed deeds ih =>
    refine (ih (b.does deed)).trans ?_
    cases deed with
    | ask q => rfl
    | verify =>
      obtain ⟨journal, h⟩ := verify_eq b
      rw [does, h]

end Bench

/-- **The teardown of a harness.** A harness that was never verified is audited when it is dropped.
One that was verified, whatever was done before and since, is audited if since then something was
added or the recorder was reset, unless the lists have grown back; then, and if nothing has happened
to them at all, it is not. An audit crashes if and only if there are failures to report. -/
theorem drop_audits_unless_regrown (config : Config) (journal : Journal)
    (hdrop : config.verifyOnDrop = true) (qs : List ((k : RequestKind) × Request k)) :
    Bench.drop ((Bench.start config journal).asks qs) =
        Bench.audit ((Bench.start config journal).asks qs) ∧
    (∀ deeds : List Deed,
      let v := (Bench.start config journal).after deeds
      let b := (Bench.verify v).2.asks qs
      let ts := (Bench.verify v).2.turns qs
      b.book = Turn.play config.mode ts v.book ∧
        (Turn.Added config.mode ts v.book ∨ .reset ∈ ts → ¬ Turn.Regrown config.mode ts v.book →
          Bench.drop b = Bench.audit b) ∧
        (Turn.Regrown config.mode ts v.book → Bench.drop b = (.ok (), b)) ∧
        (¬ Turn.Added config.mode ts v.book → .reset ∉ ts → Bench.drop b = (.ok (), b))) ∧
    ∀ b, (Bench.audit b).1 = (TestError.collect b.failures).mapError fun e =>
      .crashed ⟨"Test harness verification failed: " ++ e.message⟩ := by
  refine ⟨?_, fun deeds => ?_, Bench.audit_eq⟩
  · obtain ⟨-, hconfig, hverified⟩ := (Bench.start config journal).asks_eq qs
    rw [Bench.drop_eq (by rw [hconfig]; exact hdrop), hverified]
    rfl
  · intro v b ts
    obtain ⟨hbook, hconfig, hverified⟩ := Bench.asks_verify_eq qs v
    rw [show v.config = config from Bench.after_config deeds _] at hbook hconfig
    have hdropped : Bench.drop b = if b.verifiedAt = some b.activity then (.ok (), b)
        else Bench.audit b := Bench.drop_eq (by rw [hconfig]; exact hdrop)
    have hsame : b.verifiedAt = some b.activity ↔
        (Turn.play config.mode ts v.book).sizes = v.book.sizes := by
      rw [hverified, Option.some_inj, eq_comm, ← hbook]
      rfl
    refine ⟨hbook, fun hadded hregrown => ?_, fun hregrown => ?_, fun hadded hreset => ?_⟩
    · rw [hdropped, if_neg]
      rw [hsame]
      by_cases hreset : .reset ∈ ts
      · rwa [Turn.sizes_eq_iff_of_reset config.mode v.book hreset]
      · rw [Turn.sizes_eq_iff_of_no_reset config.mode v.book hreset, Classical.not_not]
        exact hadded.resolve_right hreset
    · have hreset : .reset ∈ ts := by
        obtain ⟨l, r, hts, -⟩ := hregrown
        simp [hts]
      rw [hdropped, if_pos]
      rwa [hsame, Turn.sizes_eq_iff_of_reset config.mode v.book hreset]
    · rw [hdropped, if_pos]
      rwa [hsame, Turn.sizes_eq_iff_of_no_reset config.mode v.book hreset]

/-- An expectation that is registered after the verification is not forgotten. -/
theorem drop_audits_late_registration :
    Config.strict.verifyOnDrop = true ∧
      let b := (Bench.verify (Bench.start .strict .empty)).2.asks
        [⟨_, .register true "op" .empty (.returns .null) .once⟩]
      (Bench.drop b).1 = .error (.crashed ⟨"Test harness verification failed: " ++
        "Unsatisfied expectation: op() expected exactly 1 time, was called 0 time(s)"⟩) := by
  obtain ⟨-, hruns, haudit⟩ := drop_audits_unless_regrown .strict .empty rfl
    [⟨_, .register true "op" .empty (.returns .null) .once⟩]
  obtain ⟨-, hadded, -⟩ := hruns []
  refine ⟨rfl, (congrArg Prod.fst (hadded ?_ ?_)).trans ((haudit _).trans rfl)⟩
  · exact .inl (.inl (.inr (by decide)))
  · rintro ⟨l, r, hts, -⟩
    have hmem : Turn.reset ∈ l ++ .reset :: r := by simp
    rw [← hts] at hmem
    cases hmem with
    | tail _ hmem => cases hmem

/-- A run in which the lists grow back: a verified expectation is forgotten, and another one is
registered and never met. -/
def Bench.forgetfulRun : List ((k : RequestKind) × Request k) :=
  [⟨_, .reset⟩, ⟨_, .register true "op" .empty (.returns .null) .once⟩]

/-- The harness of such a run is dropped without a complaint, though an expectation was registered
since it was verified and an audit would crash. -/
theorem drop_trusts_regrown_lists :
    let v := (Bench.start .strict .empty).after
      [.ask (.register true "op" .empty (.returns .null) .anyNumber)]
    let b := (Bench.verify v).2.asks Bench.forgetfulRun
    let ts := (Bench.verify v).2.turns Bench.forgetfulRun
    Turn.Added .strict ts v.book ∧ Bench.drop b = (.ok (), b) ∧
      (Bench.audit b).1 = .error (.crashed ⟨"Test harness verification failed: " ++
        "Unsatisfied expectation: op() expected exactly 1 time, was called 0 time(s)"⟩) := by
  refine ⟨?_, ?_, ?_⟩
  · exact .inr (.inl (.inr (by decide)))
  · rfl
  · rfl

end TestDouble
