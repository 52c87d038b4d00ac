import PageImages.Storage.FileSystem

/-!
**The course of a run.**

A run changes the file system step by step, and says something in between.  Its course lists both in
the order in which they happen, so that one can tell what a file held when something was said.

Main definitions:

* `Moment`, `Course` — one thing that happens, and all of them in order;
* `Course.effects`, `Course.notices` — the steps in the file system, and what was said.
-/

set_option autoImplicit false

namespace PageImages

/-- One thing that happens in a run. -/
inductive Moment where
  /-- The file system changes. -/
  | change (effect : Effect)
  /-- Something is said. -/
  | notice (notice : Notice)

/-- What happens in a run, in order. -/
abbrev Course := List Moment

namespace Moment

/-- The step in the file system. -/
def effect? : Moment → Option Effect
  | change effect => some effect
  | notice _ => none

/-- What is said. -/
def notice? : Moment → Option Notice
  | change _ => none
  | notice n => some n

end Moment

namespace Course

/-- The steps in the file system. -/
def effects (course : Course) : List Effect := course.filterMap Moment.effect?

/-- What was said. -/
def notices (course : Course) : List Notice := course.filterMap Moment.notice?

/-- The course in which nothing is said. -/
def ofEffects (effects : List Effect) : Course := effects.map .change

/-- The course in which nothing changes. -/
def ofNotices (notices : List Notice) : Course := notices.map .notice

@[simp] theorem effects_nil : effects [] = [] := rfl

@[simp] theorem notices_nil : notices [] = [] := rfl

@[simp] theorem effects_append (a b : Course) : effects (a ++ b) = effects a ++ effects b := by
  simp [effects]

@[simp] theorem notices_append (a b : Course) : notices (a ++ b) = notices a ++ notices b := by
  simp [notices]

@[simp] theorem effects_ofEffects (effects : List Effect) :
    Course.effects (ofEffects effects) = effects := by
  simp [Course.effects, ofEffects, List.filterMap_map, Function.comp_def, Moment.effect?]

@[simp] theorem notices_ofEffects (effects : List Effect) :
    Course.notices (ofEffects effects) = [] := by
  simp [Course.notices, ofEffects, List.filterMap_map, Function.comp_def, Moment.notice?]

@[simp] theorem effects_ofNotices (notices : List Notice) :
    Course.effects (ofNotices notices) = [] := by
  simp [Course.effects, ofNotices, List.filterMap_map, Function.comp_def, Moment.effect?]

@[simp] theorem notices_ofNotices (notices : List Notice) :
    Course.notices (ofNotices notices) = notices := by
  simp [Course.notices, ofNotices, List.filterMap_map, Function.comp_def, Moment.notice?]

theorem effects_flatMap {α : Type} (items : List α) (course : α → Course) :
    effects (items.flatMap course) = items.flatMap fun item => effects (course item) := by
  simp [effects, List.filterMap_flatMap]

end Course

end PageImages
