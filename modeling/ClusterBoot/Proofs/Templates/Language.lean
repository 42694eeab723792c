/-
  ClusterBoot.Proofs.Templates.Language
  ────────────────────────────────
  **TEMPLATES.**

  A template is a text with tags in it.  A tag in double braces stands for a
  value; one in a brace and a percent sign begins or ends a block, which is
  there or not, or is there once for each item of a list.  A dash at the side
  of a tag removes the white space on that side.  This is as much of the
  language as the templates of the command use; what goes beyond it is a
  fault, and so is a value that is missing where it is needed.

  Reading a text gives a `Template`, in which the blocks are nested and the
  lines are seen (`Template.read?`).  What a template makes of values is
  `Template.render?`; that it `Renders` a text is shown part by part.
-/
import ClusterBoot.Text.Blank
import ClusterBoot.Proofs.Lines
import ClusterBoot.Text.Numeral
import ClusterBoot.Text.Pieces
import Mathlib.Data.List.Forall2

namespace ClusterBoot

/-! ## §1. Values. -/

namespace Template

/-- A value that a template is filled with. -/
inductive Value where
  | null
  | bool (b : Bool)
  | number (n : Nat)
  | text (s : String)
  | list (items : List Value)
  | record (fields : List (String × Value))

namespace Value

/-- A text that may be missing. -/
def ofOption : Option String → Value
  | some s => text s
  | none => null

/-- The value of a field. -/
def field? : Value → String → Option Value
  | record fields, name => fields.lookup name
  | _, _ => none

/-- Whether a value counts as true. -/
def holds : Value → Bool
  | null => false
  | bool b => b
  | number n => n ≠ 0
  | text s => s ≠ ""
  | list items => !items.isEmpty
  | record fields => !fields.isEmpty

/-- What stands for a value in a text.  Lists and records do not stand in texts
here. -/
def inserted? : Value → Option String
  | null => some ""
  | bool b => some (if b then "true" else "false")
  | number n => some (toString n)
  | text s => some s
  | list _ | record _ => none

/-- The items of a list. -/
def items? : Value → Option (List Value)
  | list items => some items
  | _ => none

end Value

/-- The values that have a name, the innermost ones first. -/
abbrev Scope := List (String × Value)

/-- The value that a path leads to: a name, and then fields. -/
def find? (scope : Scope) : List String → Option Value
  | [] => none
  | name :: fields => (scope.lookup name).bind fun value => fields.foldlM Value.field? value

/-- What a block depends on. -/
inductive Condition where
  /-- There is a value, and it counts as true. -/
  | holds (path : List String)
  /-- A value is a given text. -/
  | equals (path : List String) (s : String)
  /-- A list has more items than a number says. -/
  | longer (path : List String) (bound : Nat)
  deriving DecidableEq, Repr

/-- Whether a condition is met.  Only the first kind may ask for a value that
there is not. -/
def Condition.met? (scope : Scope) : Condition → Option Bool
  | holds path => some ((find? scope path).any Value.holds)
  | equals path s =>
      (find? scope path).map fun value =>
        match value with
        | .text t => t = s
        | _ => false
  | longer path bound => ((find? scope path).bind Value.items?).map fun items =>
      bound < items.length

end Template

/-! ## §2. Templates. -/

/-- A template, part after part: every part has the rest of the template behind
it. -/
inductive Template where
  /-- There is nothing more. -/
  | done
  /-- A text within a line. -/
  | text (s : String) (rest : Template)
  /-- The end of a line. -/
  | newLine (rest : Template)
  /-- A value. -/
  | insert (path : List String) (rest : Template)
  /-- One of two blocks. -/
  | choice (condition : Template.Condition) (yes no rest : Template)
  /-- A block for each item of a list. -/
  | loop (item : String) (path : List String) (body rest : Template)
  deriving DecidableEq, Repr

namespace Template

/-- A text within a line, unless it is empty. -/
def line (s : String) (rest : Template) : Template :=
  if s = "" then rest else text s rest

/-- Whole lines. -/
def lines (ls : List String) (rest : Template) : Template :=
  ls.foldr (fun l rest => line l (newLine rest)) rest

/-- The names of templates whose values are made safe for web pages. -/
def escapes (name : String) : Bool :=
  [".html", ".htm", ".xml"].any fun mark => mark.toList.isSuffixOf name.toList

/-- A text as it stands in a web page. -/
def escape (s : String) : String :=
  String.join (s.toList.map fun c =>
    match c with
    | '&' => "&amp;"
    | '<' => "&lt;"
    | '>' => "&gt;"
    | '"' => "&quot;"
    | '\'' => "&#x27;"
    | '/' => "&#x2F;"
    | c => String.singleton c)

/-- What a template makes of values; nothing if one that it needs is missing. -/
def render? (escaped : Bool) : Scope → Template → Option String
  | _, done => some ""
  | scope, text s rest => do
      return s ++ (← render? escaped scope rest)
  | scope, newLine rest => do
      return "\n" ++ (← render? escaped scope rest)
  | scope, insert path rest => do
      let s ← (find? scope path).bind Value.inserted?
      return (if escaped then escape s else s) ++ (← render? escaped scope rest)
  | scope, choice condition yes no rest => do
      let s ← if ← condition.met? scope then render? escaped scope yes
        else render? escaped scope no
      return s ++ (← render? escaped scope rest)
  | scope, loop item path body rest => do
      let items ← (find? scope path).bind Value.items?
      let parts ← items.mapM fun value => render? escaped ((item, value) :: scope) body
      return String.join parts ++ (← render? escaped scope rest)

/-! ## §3. Tags. -/

/-- A part of the text of a template. -/
inductive Part where
  /-- Text between tags. -/
  | text (cs : List Char)
  /-- A tag: whether it is one of a block, whether there is a dash on its left and
  on its right, and its words. -/
  | tag (block left right : Bool) (words : List (List Char))
  deriving DecidableEq, Repr

/-- The tag with something between its marks. -/
def tagOf (block : Bool) (cs : List Char) : Part :=
  let left := cs.head? = some '-'
  let right := cs.getLast? = some '-'
  let cs := if left then cs.tail else cs
  let cs := if right then cs.dropLast else cs
  .tag block left right ((Text.piecesOf ' ' cs).filter (· ≠ []))

/-- Where a character of a template is. -/
inductive Place where
  | text
  | value
  | block
  deriving DecidableEq, Repr

/-- Cut a text at its tags; `seen` is what there is of the current part, last
character first.  A tag must be closed. -/
def cut? : Place → (seen : List Char) → List Char → Option (List Part)
  | .text, seen, '\x7b' :: '\x7b' :: cs => do
      return .text seen.reverse :: (← cut? .value [] cs)
  | .text, seen, '\x7b' :: '%' :: cs => do
      return .text seen.reverse :: (← cut? .block [] cs)
  | .value, seen, '\x7d' :: '\x7d' :: cs => do
      return tagOf false seen.reverse :: (← cut? .text [] cs)
  | .block, seen, '%' :: '\x7d' :: cs => do
      return tagOf true seen.reverse :: (← cut? .text [] cs)
  | .text, seen, [] => some [.text seen.reverse]
  | .value, _, [] => none
  | .block, _, [] => none
  | place, seen, c :: cs => cut? place (c :: seen) cs

/-- Whether the first part is a tag with a dash on its left. -/
def dashAhead : List Part → Bool
  | .tag _ left _ _ :: _ => left
  | _ => false

/-- Remove the white space beside dashes; `behind` says whether the tag before had
a dash on its right. -/
def trimParts : (behind : Bool) → List Part → List Part
  | _, [] => []
  | behind, .text cs :: parts =>
      let cs := if behind then cs.dropWhile Text.isBlank else cs
      let cs := if dashAhead parts then Text.trimEndChars cs else cs
      .text cs :: trimParts false parts
  | _, .tag block left right words :: parts =>
      .tag block left right words :: trimParts right parts

/-! ## §4. Reading. -/

/-- A path of names with points between them. -/
def pathOf (word : List Char) : List String :=
  (Text.piecesOf '.' word).map String.ofList

/-- A text in quotation marks. -/
def quoted? : List Char → Option String
  | '"' :: cs => if cs.getLast? = some '"' then some (String.ofList cs.dropLast) else none
  | _ => none

/-- Read a condition. -/
def Condition.read? : List (List Char) → Option Condition
  | [path] => some (.holds (pathOf path))
  | [path, ['=', '='], word] => (quoted? word).map (.equals (pathOf path))
  | [path, ['|'], ['l', 'e', 'n', 'g', 't', 'h'], ['>'], word] =>
      (Text.digits? 10 word).map (.longer (pathOf path))
  | _ => none

/-- The text between two tags. -/
def ofLines : List (List Char) → Template → Template
  | [], rest => rest
  | [cs], rest => line (String.ofList cs) rest
  | cs :: more, rest => line (String.ofList cs) (newLine (ofLines more rest))

/-- A block whose beginning is still to be read. -/
inductive Frame where
  /-- One of two blocks: the second one, if it was read, and what comes after. -/
  | choice (no : Option Template) (rest : Template)
  /-- A block for each item: what comes after. -/
  | loop (rest : Template)

/-- Put a part before what was read.  Parts are read from the last to the first, so
the end of a block comes before its beginning. -/
def Part.put? : Part → Template × List Frame → Option (Template × List Frame)
  | .text cs, (now, frames) => some (ofLines (Text.piecesOf '\n' cs) now, frames)
  | .tag false _ _ [word], (now, frames) => some (.insert (pathOf word) now, frames)
  | .tag true _ _ [['e', 'n', 'd', 'i', 'f']], (now, frames) =>
      some (.done, .choice none now :: frames)
  | .tag true _ _ [['e', 'l', 's', 'e']], (now, .choice none rest :: frames) =>
      some (.done, .choice (some now) rest :: frames)
  | .tag true _ _ (['i', 'f'] :: words), (now, .choice no rest :: frames) => do
      return (.choice (← Condition.read? words) now (no.getD .done) rest, frames)
  | .tag true _ _ [['e', 'n', 'd', 'f', 'o', 'r']], (now, frames) =>
      some (.done, .loop now :: frames)
  | .tag true _ _ [['f', 'o', 'r'], item, ['i', 'n'], word], (now, .loop rest :: frames) =>
      some (.loop (String.ofList item) (pathOf word) now rest, frames)
  | _, _ => none

/-- Read the parts of a template.  Every block must have its beginning and its
end. -/
def ofParts? (parts : List Part) : Option Template :=
  match parts.foldrM Part.put? (.done, []) with
  | some (t, []) => some t
  | _ => none

/-- Read a template. -/
def read? (text : String) : Option Template := do
  ofParts? (trimParts false (← cut? .text [] text.toList))

example : read? "a \x7b\x7b- b.c -\x7d\x7d\n d\n"
    = some (.text "a" (.insert ["b", "c"] (.text "d" (.newLine .done)))) := by
  decide +kernel

/-- A text of lines is read once its characters are known. -/
theorem read?_unlines {ls : List String} {css : List (List Char)} {t : Template}
    (hlines : List.Forall₂ (fun l cs => l = String.ofList cs) ls css)
    (hread : (cut? .text [] (css.flatMap (· ++ ['\n']))).bind
      (fun parts => ofParts? (trimParts false parts)) = some t) :
    read? (Text.unlines ls) = some t := by
  have hchars : (Text.unlines ls).toList = css.flatMap (· ++ ['\n']) := by
    rw [Text.toList_unlines]
    clear hread
    induction hlines with
    | nil => rfl
    | cons hl _ ih => rw [List.flatMap_cons, List.flatMap_cons, ih, hl, String.toList_ofList]
  rw [read?, hchars]
  exact hread

/-! ## §5. What a template gives. -/

/-- A template gives a text, and nothing that it needs is missing. -/
def Renders (scope : Scope) (t : Template) (s : String) : Prop :=
  t.render? false scope = some s

namespace Renders

variable {scope : Scope} {rest : Template} {s : String}

theorem of_eq {t : Template} {a : String} (h : Renders scope t a) (ha : a = s) :
    Renders scope t s :=
  ha ▸ h

theorem done : Renders scope .done "" := rfl

theorem text (a : String) (h : Renders scope rest s) : Renders scope (.text a rest) (a ++ s) := by
  unfold Renders at *
  rw [render?, h]
  rfl

theorem newLine (h : Renders scope rest s) : Renders scope (.newLine rest) ("\n" ++ s) := by
  unfold Renders at *
  rw [render?, h]
  rfl

/-- Lines stay what they are. -/
theorem lines (ls : List String) (h : Renders scope rest s) :
    Renders scope (.lines ls rest) (Text.unlines ls ++ s) := by
  induction ls with
  | nil => simpa [Template.lines, Text.unlines] using h
  | cons l ls ih =>
      have hline : Renders scope (line l (.newLine (.lines ls rest)))
          (l ++ ("\n" ++ (Text.unlines ls ++ s))) := by
        unfold line
        split
        next hempty =>
          rw [hempty, String.empty_append]
          exact ih.newLine
        next => exact ih.newLine.text l
      rw [Text.unlines_cons, String.append_assoc, String.append_assoc]
      exact hline

/-- A text is inserted as it is. -/
theorem insert {path : List String} {a : String} (hvalue : find? scope path = some (.text a))
    (h : Renders scope rest s) : Renders scope (.insert path rest) (a ++ s) := by
  unfold Renders at *
  rw [render?, hvalue, h]
  rfl

/-- So is a number, in digits. -/
theorem insertNumber {path : List String} {n : Nat}
    (hvalue : find? scope path = some (.number n)) (h : Renders scope rest s) :
    Renders scope (.insert path rest) (toString n ++ s) := by
  unfold Renders at *
  rw [render?, hvalue, h]
  rfl

/-- The first of two blocks is there if the condition is met, ... -/
theorem yes {condition : Condition} {yes no : Template} {block : String}
    (hmet : condition.met? scope = some true) (hblock : Renders scope yes block)
    (h : Renders scope rest s) : Renders scope (.choice condition yes no rest) (block ++ s) := by
  unfold Renders at *
  rw [render?, hmet, h]
  simp [hblock]

/-- ... and the second one if it is not. -/
theorem no {condition : Condition} {yes no : Template} {block : String}
    (hmet : condition.met? scope = some false) (hblock : Renders scope no block)
    (h : Renders scope rest s) : Renders scope (.choice condition yes no rest) (block ++ s) := by
  unfold Renders at *
  rw [render?, hmet, h]
  simp [hblock]

/-- A block is there once for each item. -/
theorem loop {α : Type} {item : String} {path : List String} {body : Template} {xs : List α}
    {value : α → Value} {block : α → String}
    (hvalue : find? scope path = some (.list (xs.map value)))
    (hbody : ∀ x ∈ xs, Renders ((item, value x) :: scope) body (block x))
    (h : Renders scope rest s) :
    Renders scope (.loop item path body rest) (String.join (xs.map block) ++ s) := by
  have hparts : (xs.map value).mapM (fun v => render? false ((item, v) :: scope) body)
      = some (xs.map block) := by
    clear hvalue
    induction xs with
    | nil => rfl
    | cons x xs ih =>
        have hfirst : render? false ((item, value x) :: scope) body = some (block x) :=
          hbody x List.mem_cons_self
        have hmore := ih fun y hy => hbody y (List.mem_cons_of_mem _ hy)
        rw [List.map_cons, List.mapM_cons, hfirst, hmore]
        rfl
  unfold Renders at *
  rw [render?, hvalue, h]
  simp [Value.items?, hparts]

end Renders

end Template

end ClusterBoot
