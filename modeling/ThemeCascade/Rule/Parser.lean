import ThemeCascade.Rule.Basic
import ThemeCascade.Rule.Error
import ThemeCascade.Tag

/-! Reading a rule from its text. Three segments are component, target and paint. With two, the first
is a class or an id by its mark, a recognised tag, or else a component. -/

namespace ThemeCascade

/-- The target that a class or id mark announces, which may lack its name. -/
def Target.ofMarked? : Text → Option Target
  | '.' :: name => some (.cls name)
  | '#' :: name => some (.id name)
  | _ => none

/-- The class or id without a name. -/
def Target.isEmpty : Target → Bool
  | .cls name | .id name => name = []
  | .tag _ => false

namespace Rule

/-- A text without the blanks around it, as the rule's body and whether the global mark ended it. -/
def splitMark (t : Text) : Text × Bool :=
  match t.dropLast? '*' with
  | some body => (body, true)
  | none => (t, false)

/-- Component and target of a two-segment rule, by its first segment. -/
def scopeOf (first : Text) : Option Text × Option Target :=
  match Target.ofMarked? first with
  | some target => (none, some target)
  | none => if (Tag.ofName? first).isSome then (none, some (.tag first)) else (some first, none)

/-- A rule from its segments; `text` is the whole rule, for errors. -/
def ofSegments (text : Text) (isGlobal : Bool) (segments : List Text) : Except RuleError Rule :=
  let checked (component : Option Text) (target : Option Target) (paintText : Text) :=
    if target.any Target.isEmpty then .error (.emptyTarget text)
    else .ok { isGlobal, component, target, paintText }
  match segments with
  | [] => .error .empty
  | [paintText] => checked none none paintText
  | [first, paintText] => checked (scopeOf first).1 (scopeOf first).2 paintText
  | [component, target, paintText] =>
    checked (some component) (some ((Target.ofMarked? target).getD (.tag target))) paintText
  | _ => .error (.tooManySegments text segments.length)

def parse (t : Text) : Except RuleError Rule :=
  let text := t.trim
  let (body, isGlobal) := splitMark text
  if body = [] then .error .empty
  else
    match Segment.split body with
    | .error fault => .error (.malformed text fault)
    | .ok (segments, []) => ofSegments text isGlobal segments
    | .ok (_, rest) => .error (.malformed text ⟨.leftOver, rest⟩)

end Rule

end ThemeCascade
