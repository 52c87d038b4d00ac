import PageImages.Convert.Save
import PageImages.Engine

/-!
**Converting a page.**

A page whose image exists is kept, unless images are to be made again.  Otherwise the page is
rendered, cropped and saved; each of the three may fail.

Main definition: `convertPage`, which gives a `PageRun`.
-/

set_option autoImplicit false

namespace PageImages

/-- What converting a page does. -/
structure PageRun where
  /-- The path of the page image, or why there is none. -/
  outcome : Except PageError Path
  /-- What happened. -/
  course : Course
  /-- The calls to the engine. -/
  calls : List Call

namespace PageRun

/-- The steps in the file system. -/
def effects (run : PageRun) : List Effect := run.course.effects

/-- What was said. -/
def notices (run : PageRun) : List Notice := run.course.notices

end PageRun

/-- The window to which the settings cut an image, if they cut it at all; nothing if it has no
pixel. -/
def cropWindow? (settings : Settings) (image : Image) : Option (Option Window) :=
  if settings.crop.enabled then
    (settings.crop.window? image.width image.height).map some
  else some none

/-- Saves the rendered image of a page, cut to a window if there is one. -/
def savePage (fs : FileSystem) (settings : Settings) (path : Path) (index : Nat) (image : Image)
    (window : Option Window) (calls : List Call) : PageRun :=
  let image := match window with
    | some w => w.cut image
    | none => image
  let cropped := Course.ofNotices (window.map Notice.pageCropped).toList
  let saved := saveImage fs image path settings.format settings.quality
  match saved.outcome with
  | .ok () =>
    { outcome := .ok path
      course := cropped ++ saved.course ++ .ofNotices [.pageConverted path]
      calls := calls }
  | .error e =>
    { outcome := .error (.encodeFailed (index + 1) path e.message)
      course := cropped ++ saved.course
      calls := calls }

/-- Converts the page of an index of an open document, after earlier calls to the engine. -/
def convertPage (fs : FileSystem) (past : List Call) (settings : Settings) (document : Document)
    (source : Path) (index : Nat) : PageRun :=
  let path := outputPath source index settings.outputFolder settings.format
  if fs.hasEntry path && !settings.overwrite then
    { outcome := .ok path, course := .ofNotices [.pageKept path], calls := [] }
  else
    let call := Call.rendered index settings.dpi settings.colorspace
    match document.render past index settings.dpi settings.colorspace with
    | .error e => { outcome := .error e, course := [], calls := [call] }
    | .ok image =>
      match cropWindow? settings image with
      | none =>
        { outcome := .error (.emptyCrop (index + 1) image.width image.height)
          course := []
          calls := [call] }
      | some window => savePage fs settings path index image window [call]

end PageImages
