import PageImages.Failure
import PageImages.Image

/-!
**Rendering engines.**

An engine opens documents and renders their pages.  Its answers may depend on the calls that were
made before, and on nothing else beside their arguments.

Main definitions:

* `Call` — a call to an engine;
* `Document` — an open document;
* `Engine` — what opens documents;
* `Engine.Memoryless` — an engine whose answers do not depend on earlier calls.
-/

set_option autoImplicit false

namespace PageImages

/-- A call to an engine. -/
inductive Call where
  /-- A document is to be opened. -/
  | opened (path : Path)
  /-- A page is to be rendered; the index counts from zero. -/
  | rendered (index dpi : Nat) (space : Colorspace)
  /-- The open document is closed. -/
  | closed
deriving DecidableEq

/-- An open document. -/
structure Document where
  /-- The number of pages. -/
  pages : Nat
  /-- Whether the document is locked by a password. -/
  encrypted : Bool
  /-- Renders the page of an index at a resolution and in a colour model, after earlier calls. -/
  render : (past : List Call) → (index dpi : Nat) → Colorspace → Except PageError Image

/-- What opens documents. -/
structure Engine where
  /-- Opens the document at a path, after earlier calls. -/
  openDocument : (past : List Call) → Path → Except OpenError Document

/-- The answers of the engine do not depend on earlier calls. -/
structure Engine.Memoryless (engine : Engine) : Prop where
  /-- Opening does not look back. -/
  opens : ∀ past past' path, engine.openDocument past path = engine.openDocument past' path
  /-- Rendering does not look back. -/
  renders : ∀ past₀ path document, engine.openDocument past₀ path = .ok document →
    ∀ past past' index dpi space,
      document.render past index dpi space = document.render past' index dpi space

end PageImages
