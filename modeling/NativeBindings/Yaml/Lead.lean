import NativeBindings.Yaml.Node
import NativeBindings.Yaml.Outline

/-!
# What stands before a node

Before a node there may be a mark, an anchor and a tag, between blanks, line ends and comments. The
order is not free: properties follow the mark, blanks separate them, a comment follows a blank, and
tabs do not indent.
-/
namespace NativeBindings.Yaml

/-- What comes after a lead, as far as the lead depends on it. -/
inductive Upcoming where
  | nothing
  | separator
  /-- A plain scalar without text. -/
  | emptyScalar
  | flowCollection
  | blockCollection
  | other
  deriving DecidableEq, Repr

namespace Upcoming

def ofLexeme (t : Lexeme) : Upcoming :=
  match t.kind with
  | .space => separator
  | .newline => separator
  | .comma => separator
  | _ => other

def ofPart : Part → Upcoming
  | .flowScalar t _ => if t.kind == .plain && t.text.isEmpty then emptyScalar else other
  | .flow _ _ _ _ => flowCollection
  | .map _ _ _ => blockCollection
  | .seq _ _ _ => blockCollection
  | _ => other

def first (part : Option Part) (ts : List Lexeme) : Upcoming :=
  match part, ts with
  | some part, _ => ofPart part
  | none, t :: _ => ofLexeme t
  | none, [] => nothing

end Upcoming

/-- Where a lead stands. -/
structure LeadPlace where
  inFlow : Bool := false
  mark : LexemeKind
  upcoming : Upcoming
  offset : Nat
  /-- The column of the collection around. -/
  parentIndent : Nat
  fresh : Bool

/-- What stands before a node. -/
structure Lead where
  comma : Bool := false
  mark : Option Lexeme := none
  blankBefore : Bool := false
  comment : String := ""
  hasLineEnd : Bool := false
  anchor : Option Lexeme := none
  tag : Option Lexeme := none
  /-- The last line end after a property. -/
  lineEnd : Option Lexeme := none
  propertyStart : Option Nat := none
  stop : Nat := 0
  fresh : Bool
  /-- Is what came last a blank, a line end or the start of the line? -/
  spaced : Bool
  /-- The line ends after the last comment. -/
  commentEnds : String := ""
  /-- Does a property have to be followed by a blank? -/
  needsSpace : Bool := false
  /-- A blank with a tab that came last. -/
  tab : Option Lexeme := none
  deriving Inhabited

namespace Lead

def start (lead : Lead) : Nat := lead.propertyStart.getD lead.stop

def hasProperty (lead : Lead) : Bool := lead.anchor.isSome || lead.tag.isSome

/-- Adds a comment, which has to follow a blank. -/
def addComment (lead : Lead) (t : Lexeme) : Option Lead :=
  if lead.spaced then
    let text := if t.body.isEmpty then " " else t.body
    some { lead with
           comment := joinComments lead.commentEnds lead.comment text
           commentEnds := "", fresh := false }
  else none

/-- Adds a line end. One more makes an empty line. -/
def addLineEnd (place : LeadPlace) (lead : Lead) (t : Lexeme) : Lead :=
  let lead :=
    if !lead.fresh then { lead with commentEnds := lead.commentEnds ++ t.text }
    else if !lead.comment.isEmpty then { lead with comment := lead.comment ++ t.text }
    else if lead.mark.isNone || place.mark != .item then { lead with blankBefore := true }
    else lead
  { lead with
    fresh := true, hasLineEnd := true, spaced := true
    lineEnd := if lead.hasProperty then some t else lead.lineEnd }

/-- Adds an anchor or a tag. A node has one of each at most. -/
def addProperty (lead : Lead) (t : Lexeme) : Option Lead :=
  let lead' := { lead with
    propertyStart := some (lead.propertyStart.getD t.offset)
    fresh := false, spaced := false, needsSpace := true }
  if t.kind == .anchor then
    if lead.anchor.isSome then none else some { lead' with anchor := some t }
  else if lead.tag.isSome then none
  else some { lead' with tag := some t }

/-- Adds the mark of the node, which comes before its properties. -/
def addMark (lead : Lead) (t : Lexeme) : Option Lead :=
  if lead.hasProperty || lead.mark.isSome then none
  else some { lead with
    mark := some t, spaced := false, fresh := t.kind == .item || t.kind == .key }

def add (place : LeadPlace) (lead : Lead) (t : Lexeme) : Option Lead := do
  let isSeparator := t.kind == .space || t.kind == .newline || t.kind == .comma
  if lead.needsSpace && !isSeparator then none
  if lead.tab.isSome && lead.fresh && t.kind != .comment && t.kind != .newline then none
  let lead := { lead with needsSpace := false, tab := none, stop := t.stop }
  if t.kind == .space then
    let counts := !place.inFlow &&
      (place.mark != .documentStart || place.upcoming != .flowCollection)
    let tab := if counts && t.text.toList.contains '\t' then some t else none
    return { lead with tab, spaced := true }
  else if t.kind == .comment then lead.addComment t
  else if t.kind == .newline then return lead.addLineEnd place t
  else if t.kind == .anchor || t.kind == .tag then lead.addProperty t
  else if t.kind == place.mark then lead.addMark t
  else if t.kind == .comma && place.inFlow && !lead.comma then
    return { lead with comma := true, fresh := false, spaced := false }
  else none

def read (place : LeadPlace) (ts : List Lexeme) : Option Lead := do
  let lead ← ts.foldlM (add place)
    { stop := place.offset, fresh := place.fresh, spaced := place.fresh }
  let isSeparated := place.upcoming == .nothing || place.upcoming == .separator ||
    place.upcoming == .emptyScalar
  if lead.needsSpace && !isSeparated then none
  let isIndented := fun tab : Lexeme =>
    (lead.fresh && tab.indent ≤ place.parentIndent) || place.upcoming == .blockCollection
  if lead.tab.any isIndented then none
  return lead

end Lead
end NativeBindings.Yaml
