import PageImages.Convert.Batch

/-!
**Progress on a terminal.**

While a batch runs on a terminal, a line is printed for each page that fails and for each document
that is done, in colours.
-/

set_option autoImplicit false

namespace PageImages.Command

/-- A text between a terminal code and the code that ends it. -/
def styled (code : Nat) (text : String) : String :=
  "\x1b[" ++ toString code ++ "m" ++ text ++ "\x1b[0m"

/-- A text in green. -/
def green (text : String) : String := styled 32 text

/-- A text in yellow. -/
def yellow (text : String) : String := styled 33 text

/-- A text in red. -/
def red (text : String) : String := styled 31 text

/-- A text in a pale colour. -/
def dim (text : String) : String := styled 2 text

/-- The greatest length of a message that is shown whole. -/
def longestMessage : Nat := 100

/-- A message, cut off if it is too long. -/
def shortened (message : String) : String :=
  let cs := message.toList
  if longestMessage < cs.length then String.ofList (cs.take longestMessage) ++ "…" else message

/-- The mark and the words for a document that is done. -/
def verdict (r : DocumentReport) : String × String :=
  let pages := toString r.pagesConverted ++ "/" ++ toString r.pagesTotal ++ " pages"
  match r.status with
  | .success => (green "✓", pages)
  | .partly => (yellow "⚠", pages ++ " (" ++ toString r.pagesFailed ++ " failed)")
  | .failed => (red "✗", red (r.errorMessage.getD "failed"))
  | .skipped => (dim "⊘", dim "skipped (output exists)")

/-- The line for a document that is done. -/
def documentLine (r : DocumentReport) : String :=
  let (mark, words) := verdict r
  "  " ++ mark ++ " " ++ r.displayName ++ "  " ++ words

/-- The line for a page that failed, in the document `name`. -/
def pageLine (name : String) (error : PageError) : String :=
  "    " ++ red "✗" ++ " " ++ name ++ "  " ++ red (shortened error.message)

/-- The lines that are printed for events, when `name` is the document that is being converted. -/
def screenLines : (name : String) → List Event → List String
  | _, [] => []
  | name, event :: events =>
    match event with
    | .batchStarted _ => screenLines name events
    | .documentStarted _ path =>
      screenLines ((path.fileName?.map Utf8.lossy).getD "") events
    | .pageDone _ _ => screenLines name events
    | .pageFailed _ error => pageLine name error :: screenLines name events
    | .documentDone report => documentLine report :: screenLines name events

end PageImages.Command
