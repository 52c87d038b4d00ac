import PageImages.Proofs.Runs

/-!
**The calls to the engine.**

A document that is left out costs no call.  Any other one is opened; if that succeeds, its pages are
rendered in order, those that are kept left out, and it is closed, whatever becomes of the pages.
So there is never more than one document open, and none is left open.

Main definitions:

* `Engine.turn?`, `Engine.openAfter?` — whether a document is open after calls, each made in its
  turn;
* `DocumentCalls` — the calls for a document.

Main results:

* `pageRuns_calls` — the pages that are rendered are those that are not kept;
* `DocumentCalls.openAfter?_eq` — the calls for a document are made in turn and leave none open;
* `convertBatch_calls` — **the calls of a batch are those for its documents, one after the other**.
-/

set_option autoImplicit false

namespace PageImages

/-! ### Calls in turn -/

namespace Engine

variable (engine : Engine)

/-- Whether a document is open after a call that is made after earlier ones; nothing if it is not
the turn of that call.  A document may be opened if none is open; only an open one is rendered or
closed. -/
def turn? (past : List Call) (isOpen : Bool) : Call → Option Bool
  | .opened path => if isOpen then none else some (engine.openDocument past path).isOk
  | .rendered _ _ _ => if isOpen then some true else none
  | .closed => if isOpen then some false else none

/-- Whether a document is open after some calls; nothing if one of them was not in turn. -/
def openAfter? : (past : List Call) → (isOpen : Bool) → List Call → Option Bool
  | _, isOpen, [] => some isOpen
  | past, isOpen, call :: calls =>
    (engine.turn? past isOpen call).bind fun isOpen => openAfter? (past ++ [call]) isOpen calls

theorem openAfter?_append (past : List Call) (isOpen : Bool) (first others : List Call) :
    engine.openAfter? past isOpen (first ++ others)
      = (engine.openAfter? past isOpen first).bind fun isOpen =>
          engine.openAfter? (past ++ first) isOpen others := by
  induction first generalizing past isOpen with
  | nil => rw [List.nil_append, openAfter?, Option.bind_some, List.append_nil]
  | cons call first ih =>
      rw [List.cons_append, openAfter?, openAfter?, Option.bind_assoc]
      refine congrArg _ (funext fun isOpen => ?_)
      rw [ih, List.append_assoc, List.singleton_append]

/-- An open document stays open while its pages are rendered. -/
theorem openAfter?_rendered (past : List Call) (indices : List Nat) (dpi : Nat)
    (space : Colorspace) :
    engine.openAfter? past true (indices.map fun index => .rendered index dpi space)
      = some true := by
  induction indices generalizing past with
  | nil => rfl
  | cons index indices ih =>
      rw [List.map_cons, openAfter?, turn?, if_pos rfl, Option.bind_some, ih]

/-- Calls that leave no document open can be followed by others of that kind. -/
theorem openAfter?_flatMap {runs : List DocumentRun} {past : List Call}
    (h : ∀ earlier run later, runs = earlier ++ run :: later →
      engine.openAfter? (past ++ earlier.flatMap DocumentRun.calls) false run.calls = some false) :
    engine.openAfter? past false (runs.flatMap DocumentRun.calls) = some false := by
  induction runs generalizing past with
  | nil => rfl
  | cons run runs ih =>
      have hfirst := h [] run runs rfl
      rw [List.flatMap_nil, List.append_nil] at hfirst
      rw [List.flatMap_cons, openAfter?_append, hfirst, Option.bind_some]
      refine ih fun earlier run' later hsplit => ?_
      rw [List.append_assoc, ← List.flatMap_cons]
      exact h (run :: earlier) run' later (by rw [hsplit, List.cons_append])

end Engine

/-! ### The calls for pages -/

/-- The pages that are not kept when they are reached. -/
def renderedPages (settings : Settings) (document : Document) (source : Path) (fs : FileSystem)
    (past : List Call) : List Nat :=
  (List.range (settings.pageLimit document.pages)).filter fun index =>
    !pageKept (pageReached settings document source fs past index) settings source index

/-- **The pages that are rendered are those that are not kept**, in their order. -/
theorem pageRuns_calls (settings : Settings) (document : Document) (source : Path)
    (fs : FileSystem) (past : List Call) :
    (pageRuns settings document source (settings.pageLimit document.pages) 0 fs past).flatMap
        PageRun.calls
      = (renderedPages settings document source fs past).map fun index =>
          .rendered index settings.dpi settings.colorspace := by
  rw [pageRuns_eq_map, renderedPages]
  generalize List.range (settings.pageLimit document.pages) = indices
  induction indices with
  | nil => rfl
  | cons index indices ih =>
      rw [List.map_cons, List.flatMap_cons, ih, convertPage_calls, pageCalls, List.filter_cons]
      cases pageKept (pageReached settings document source fs past index) settings source index <;>
        rfl

/-! ### The calls for a document -/

/-- The calls for the document at `source`, which finds the file system `fs` after the calls `past`,
beside the report on it. -/
inductive DocumentCalls (fs : FileSystem) (past : List Call) (settings : Settings)
    (engine : Engine) (source : Path) : DocumentReport → List Call → Prop
  /-- A document that is left out costs no call. -/
  | skipped (skip : shouldSkip fs settings source = true) :
      DocumentCalls fs past settings engine source (.skipped source) []
  /-- A document that cannot be opened is not closed. -/
  | unopened {e : OpenError} (skip : shouldSkip fs settings source = false)
      (opens : engine.openDocument past source = .error e) :
      DocumentCalls fs past settings engine source (.failed source e.message) [.opened source]
  /-- A locked document is closed at once. -/
  | locked {document : Document} (skip : shouldSkip fs settings source = false)
      (opens : engine.openDocument past source = .ok document)
      (encrypted : document.encrypted = true) :
      DocumentCalls fs past settings engine source
        (.failed source OpenError.passwordProtected.message) [.opened source, .closed]
  /-- Any other document is opened, its pages are gone through, of which those that are not kept are
  rendered in increasing order, and it is closed. -/
  | pagesGoneThrough {report : DocumentReport} {document : Document} {indices : List Nat}
      (skip : shouldSkip fs settings source = false) (status : report.status ≠ .skipped)
      (opens : engine.openDocument past source = .ok document)
      (encrypted : document.encrypted = false) (increasing : indices.Pairwise (· < ·))
      (rendered : ∀ index, index ∈ indices ↔ index < settings.pageLimit document.pages ∧
        (settings.overwrite = true ∨
          (pageReached settings document source fs (past ++ [.opened source]) index).hasEntry
            (imagePath settings source index) = false)) :
      DocumentCalls fs past settings engine source report
        (.opened source :: ((indices.map fun index =>
          .rendered index settings.dpi settings.colorspace) ++ [.closed]))

/-- The calls for a document are made in turn, and leave no document open. -/
theorem DocumentCalls.openAfter?_eq {fs : FileSystem} {past : List Call} {settings : Settings}
    {engine : Engine} {source : Path} {report : DocumentReport} {calls : List Call}
    (h : DocumentCalls fs past settings engine source report calls) :
    engine.openAfter? past false calls = some false := by
  cases h with
  | skipped skip => rfl
  | unopened skip opens =>
      rw [Engine.openAfter?, Engine.turn?, if_neg Bool.false_ne_true, opens]
      rfl
  | locked skip opens encrypted =>
      rw [Engine.openAfter?, Engine.turn?, if_neg Bool.false_ne_true, opens]
      rfl
  | pagesGoneThrough skip status opens encrypted increasing rendered =>
      have hopen : (engine.openDocument past source).isOk = true := by
        rw [opens]
        rfl
      rw [Engine.openAfter?, Engine.turn?, if_neg Bool.false_ne_true, hopen, Option.bind_some,
        Engine.openAfter?_append, Engine.openAfter?_rendered, Option.bind_some]
      rfl

theorem convertDocument_calls (fs : FileSystem) (past : List Call) (settings : Settings)
    (engine : Engine) (source : Path) (observed : Bool) :
    let run := convertDocument fs past settings engine source observed
    DocumentCalls fs past settings engine source run.report run.calls := by
  intro run
  rcases convertDocument_cases fs past settings engine source observed with
    ⟨hskip, hrun⟩ | ⟨hskip, ⟨e, hopen, hrun⟩ | ⟨document, hopen, ⟨hlocked, hrun⟩ | ⟨hplain, hrun⟩⟩⟩
  · simp only [run, hrun]
    exact .skipped hskip
  · simp only [run, hrun]
    exact .unopened hskip hopen
  · simp only [run, hrun]
    exact .locked hskip hopen hlocked
  · simp only [run, hrun, DocumentRun.enclosed, convertPages, pageRuns_calls]
    refine .pagesGoneThrough hskip (Status.classify_ne_skipped _ _) hopen hplain
      (List.Pairwise.filter _ List.pairwise_lt_range) fun index => ?_
    rw [renderedPages, List.mem_filter, List.mem_range, pageKept]
    cases settings.overwrite <;> simp

/-! ### The calls of a batch -/

/-- **The calls of a batch are those for its documents, one after the other.**  A batch that is
refused makes no call.  In any other, each document in its order makes the calls that belong to it,
in the file system and after the calls that the documents before it left.  All calls are made in
turn: there is never more than one document open, each is closed once, before the next is opened,
and none is left open. -/
theorem convertBatch_calls (fs : FileSystem) (settings : Settings) (engine : Engine)
    (observed : Bool) :
    let run := convertBatch fs settings engine observed
    let runs := batchRuns fs settings engine observed
    ((run.outcome.isOk = false ∧ run.calls = []) ∨
      (run.outcome = .ok (.ofResults (runs.map DocumentRun.report)) ∧
        run.calls = runs.flatMap DocumentRun.calls ∧
        runs.map (fun run => run.report.path) <+: foundDocuments fs settings ∧
        ∀ earlier document later, runs = earlier ++ document :: later →
          DocumentCalls ((outset fs settings).applyAll (earlier.flatMap DocumentRun.effects))
            (earlier.flatMap DocumentRun.calls) settings engine document.report.path
            document.report document.calls)) ∧
      engine.openAfter? [] false run.calls = some false := by
  intro run runs
  have hcalls : ∀ earlier document later, runs = earlier ++ document :: later →
      DocumentCalls ((outset fs settings).applyAll (earlier.flatMap DocumentRun.effects))
        (earlier.flatMap DocumentRun.calls) settings engine document.report.path
        document.report document.calls := by
    intro earlier document later hsplit
    have hrun := documentRuns_split hsplit
    rw [List.nil_append] at hrun
    have hdocument := convertDocument_calls
      ((outset fs settings).applyAll (earlier.flatMap DocumentRun.effects))
      (earlier.flatMap DocumentRun.calls) settings engine document.report.path observed
    rw [← hrun] at hdocument
    exact hdocument
  rcases refused_or_free fs settings with ⟨hinput, e, hmade⟩ | hfree
  · obtain ⟨houtcome, -, hnone, -⟩ := convertBatch_of_error engine observed hinput hmade
    simp only [run, houtcome, hnone]
    exact ⟨Or.inl ⟨rfl, trivial⟩, rfl⟩
  · obtain ⟨houtcome, -, hall, -⟩ := convertBatch_of_runs engine observed hfree
    refine ⟨Or.inr ⟨houtcome, hall, documentRuns_paths _ _ _, hcalls⟩, ?_⟩
    simp only [run, hall]
    refine engine.openAfter?_flatMap fun earlier document later hsplit => ?_
    rw [List.nil_append]
    exact (hcalls earlier document later hsplit).openAfter?_eq

end PageImages
