import PageImages.Json.Reader
import PageImages.Settings

/-!
**Settings in a JSON text.**

A settings text is an object in which every key may be left out and then keeps its default, at all
levels.  Its records may also be written as lists.  An empty name of the log file means none.

Main definition: `Settings.reader`, and `Settings.decode` for a whole text.
-/

set_option autoImplicit false

namespace PageImages.Settings

/-- A field that may be left out. -/
def field {σ α : Type} (name : String) (r : Json.Reader α) (set : α → σ → σ) : Json.Field σ :=
  { name := name, optional := true, read := r.map set }

/-- The form of a part of an axis. -/
def spanShape : Json.Shape Span where
  title := "struct AxisFile"
  fields :=
    [field "start" Json.real fun x s => { s with start := x },
      field "end" Json.real fun x s => { s with stop := x }]
  initial := Span.whole
  lenient := true

/-- The form of a crop. -/
def cropShape : Json.Shape Crop where
  title := "struct CropFile"
  fields :=
    [field "enabled" Json.boolean fun on c => { c with enabled := on },
      field "horizontal" (Json.record spanShape) fun s c => { c with horizontal := s },
      field "vertical" (Json.record spanShape) fun s c => { c with vertical := s }]
  initial := Crop.disabled
  lenient := true

/-- The format of a name. -/
def formatOfName? (name : String) : Option ImageFormat :=
  if name = "jpg" || name = "jpeg" then some .jpg
  else if name = "png" then some .png
  else none

/-- Reads a format. -/
def formatReader : Json.Reader ImageFormat :=
  Json.choice ["jpeg", "jpg", "png"] formatOfName?

/-- The colour model of a name. -/
def colorspaceOfName? (name : String) : Option Colorspace :=
  if name = "rgb" then some .rgb else if name = "gray" then some .gray else none

/-- Reads a colour model. -/
def colorspaceReader : Json.Reader Colorspace :=
  Json.choice ["rgb", "gray"] colorspaceOfName?

/-- The path of a log file, the empty one taken as none. -/
def namedLogFile (path : Option Path) : Option Path :=
  path.filter fun p => !p.octets.isEmpty

/-- The form of settings. -/
def shape : Json.Shape Settings where
  title := "struct SettingsFile"
  fields :=
    [field "input_folder" Json.path fun p s => { s with inputFolder := p },
      field "output_folder" Json.path fun p s => { s with outputFolder := p },
      field "dpi" Json.word32 fun n s => { s with dpi := n },
      field "format" formatReader fun x s => { s with format := x },
      field "jpg_quality" Json.octet fun n s => { s with quality := n },
      field "colorspace" colorspaceReader fun x s => { s with colorspace := x },
      field "overwrite" Json.boolean fun on s => { s with overwrite := on },
      field "skip_if_exists" Json.boolean fun on s => { s with skipIfExists := on },
      field "max_pages_per_pdf" Json.count fun n s => { s with maxPages := n },
      field "fail_fast" Json.boolean fun on s => { s with failFast := on },
      field "log_file" (Json.optional Json.path) fun p s => { s with logFile := namedLogFile p },
      field "crop" (Json.record cropShape) fun c s => { s with crop := c }]
  initial := Settings.default
  lenient := true

/-- Reads settings, which are still to be checked. -/
def reader : Json.Reader Settings := Json.record shape

/-- The settings of a whole text, which are still to be checked. -/
def decode (text : String) : Except Json.Error Settings :=
  Json.decode reader text

end PageImages.Settings
