import ProtocInvocation.Log.Value
import ProtocInvocation.Text.Blank
import ProtocInvocation.Text.Cut

/-!
# Log filters

A log filter is a list of rules between commas. A rule may name a target, a span, a field of the
span with its value, and a level, as in `target[span{field=value}]=level`. It is scanned without the
blanks at its ends, but its parts are cut from the text with them, at the offsets in bytes that the
scan has found. So where blanks stand in front of a rule, its parts are cut that much too early, and
one that begins or ends within a character cannot be cut at all.
-/

namespace ProtocInvocation.Log

/-- The variable that may hold a log filter. -/
def filterVariable : String := "RUST_LOG"

/-- Why a rule cannot be used. -/
inductive RuleFault where
  | malformed
  /-- A part of the rule begins or ends within a character. -/
  | torn
  deriving DecidableEq, Repr

/-! ## Parts -/

/-- The levels from the quietest on. A number stands for the level at that place. -/
def levelNames : List String :=
  ["off", "error", "warn", "info", "debug", "trace"]

/-- Whether a text is the number of a level. -/
def isLevelNumber (text : List Char) : Bool :=
  let digits := if text.head? = some '+' then text.tail else text
  digits ≠ [] && digits.all Char.isDigit &&
    digits.foldl (fun n c => 10 * n + (c.toNat - '0'.toNat)) 0 < levelNames.length

/-- Whether a text is a level, by its name in letters of either case or by its number. A rule that
leaves its level out is as loud as there is. -/
def isLevel (text : List Char) : Bool :=
  text = [] || levelNames.contains (String.ofList (text.map Char.toLower)) || isLevelNumber text

/-- Whether a text is a field, with a value behind an equals sign or without. -/
def isField (text : List Char) : Bool :=
  match text.splitOn '=' with
  | _ :: value :: _ => Log.isValue value
  | _ => text ≠ []

/-- The part of a rule from byte `first` to byte `last`. -/
def part (rule : List Char) (first last : Nat) : Except RuleFault (List Char) :=
  match (Text.cutBytes? first rule).bind fun cut => Text.cutBytes? (last - first) cut.2 with
  | some (within, _) => .ok within
  | none => .error .torn

/-- The part of a rule from byte `first` on. -/
def lastPart (rule : List Char) (first : Nat) : Except RuleFault (List Char) :=
  match Text.cutBytes? first rule with
  | some (_, behind) => .ok behind
  | none => .error .torn

/-! ## Rules -/

/-- What the scan of a rule has come to. A part that it is in begins at byte `first`. -/
inductive Stage where
  | start
  /-- A target, or a level without one. -/
  | target
  | span (first : Nat)
  | field (first : Nat)
  | afterField
  | afterSpan
  | level (first : Nat)
  deriving DecidableEq, Repr

/-- What a character at byte `offset` makes of a stage. A part is cut as soon as it ends. -/
def Stage.next (rule : List Char) (offset : Nat) (c : Char) : Stage → Except RuleFault Stage
  | start =>
    if c = '[' then .ok (span (offset + 1))
    else if ['-', ':', '_'].contains c || Text.isAlphanumeric c then .ok target
    else .error .malformed
  | target =>
    if c = '=' then (part rule 0 offset).map fun _ => level (offset + 1)
    else if c = '[' then (part rule 0 offset).map fun _ => span (offset + 1)
    else .ok target
  | span first =>
    if c = ']' then (part rule first offset).map fun _ => afterSpan
    else if c = '{' then (part rule first offset).map fun _ => field (offset + 1)
    else .ok (span first)
  | field first =>
    if c = '}' then
      (part rule first offset).bind fun text =>
        if isField text then .ok afterField else .error .malformed
    else .ok (field first)
  | afterField => if c = ']' then .ok afterSpan else .error .malformed
  | afterSpan => if c = '=' then .ok (level (offset + 1)) else .error .malformed
  | level first => .ok (level first)

/-- What characters from byte `offset` on make of a stage. -/
def Stage.scan (rule : List Char) : Nat → Stage → List Char → Except RuleFault Stage
  | _, stage, [] => .ok stage
  | offset, stage, c :: cs =>
    (stage.next rule offset c).bind fun stage => stage.scan rule (offset + c.utf8Size) cs

/-- What a rule comes to that ends at a stage. -/
def Stage.finish (rule : List Char) : Stage → Except RuleFault Unit
  | target | afterSpan => .ok ()
  | level first =>
    (lastPart rule first).bind fun text => if isLevel text then .ok () else .error .malformed
  | start | span _ | field _ | afterField => .error .malformed

/-- Checks a rule. -/
def checkRule (rule : List Char) : Except RuleFault Unit :=
  (Stage.start.scan rule 0 (Text.trimList rule)).bind (·.finish rule)

/-- Whether all parts of a rule can be cut, as far as it is scanned. -/
def isWhole (rule : List Char) : Bool :=
  match checkRule rule with
  | .ok () | .error .malformed => true
  | .error .torn => false

/-! ## Filters -/

/-- The rules of a filter. Nothing between two commas is no rule. -/
def rules (filter : String) : List (List Char) :=
  (filter.toList.splitOn ',').filter (· ≠ [])

/-- Checks a filter that has to be in order as a whole. -/
def check (filter : String) : Except RuleFault Unit :=
  (rules filter).forM checkRule

/-- Whether messages can be logged when a variable may hold a filter: with this filter, or, where
there is none or a malformed one, with the filter that is configured. In the latter, rules that are
malformed are passed over. -/
def canStart (preset : Option String) (configured : String) : Bool :=
  match preset.map check with
  | some (.ok ()) => true
  | some (.error .torn) => false
  | some (.error .malformed) | none => (rules configured).all isWhole

end ProtocInvocation.Log
