import PageImages.Convert.Course
import PageImages.Naming
import PageImages.Storage.Operations

/-!
**Saving an image.**

An image is written under a temporary name beside its path and gets its name when it is complete, so
that a file under that name is never cut short.  When anything fails the temporary file is removed.

Main definitions:

* `SaveError` — why an image was not saved;
* `SaveRun`, `saveImage` — what saving an image does.
-/

set_option autoImplicit false

namespace PageImages

/-- Why an image was not saved. -/
inductive SaveError where
  /-- The file system refused. -/
  | storage (error : OsError)
  /-- The image cannot be encoded. -/
  | encoding (error : EncodeError)
deriving DecidableEq

/-- Why an image was not saved, in words. -/
def SaveError.message : SaveError → String
  | .storage error => error.message
  | .encoding error => error.message

/-- What saving an image does. -/
structure SaveRun where
  /-- Whether the image was saved. -/
  outcome : Except SaveError Unit
  /-- What happened. -/
  course : Course

/-- The steps in the file system. -/
def SaveRun.effects (run : SaveRun) : List Effect := run.course.effects

/-- What was said. -/
def SaveRun.notices (run : SaveRun) : List Notice := run.course.notices

/-- A save that failed after `done`: the temporary file is removed, if it is one. -/
def SaveRun.abandoned (fs : FileSystem) (temporary : Path) (done : List Effect)
    (error : SaveError) : SaveRun where
  outcome := .error error
  course := .ofEffects (done ++ ((fs.applyAll done).unlink temporary).toOption.toList)

/-- The steps that write an encoded image into a file: the file is made, it holds a part of the
image, it holds the whole. -/
def writeSteps (location : Location) (encoded : Encoded) : List Effect :=
  [.create location, .write location [.fragment encoded], .write location [.picture encoded]]

/-- The steps that write what there is of an image that cannot be encoded. -/
def refusedSteps (location : Location) (error : EncodeError) : List Effect :=
  .create location
    :: if error.remnant.isEmpty then [] else [.write location (.ofOctets error.remnant)]

/-- Saves an image under a path. -/
def saveImage (fs : FileSystem) (image : Image) (path : Path) (format : ImageFormat)
    (quality : Nat) : SaveRun :=
  let temporary := temporaryPath path
  match fs.createFile temporary with
  | .error e => .abandoned fs temporary [] (.storage e)
  | .ok location =>
    match Encoded.ofImage format quality image with
    | .error e => .abandoned fs temporary (refusedSteps location e) (.encoding e)
    | .ok encoded =>
      let written := writeSteps location encoded
      match (fs.applyAll written).rename temporary path with
      | .error e => .abandoned fs temporary written (.storage e)
      | .ok move =>
        { outcome := .ok ()
          course := .ofEffects (written ++ [move])
            ++ .ofNotices [.pageEncoded image.width image.height path] }

end PageImages
