import ShapeMatch.Regex.Factoring
import ShapeMatch.Regex.Token

/-! Patterns from their text. -/
namespace ShapeMatch.Regex

/-- The options in force at a place of a pattern. -/
structure Options where
  /-- letters match in any case -/
  ignoreCase : Bool := false
  /-- line anchors hold at every line, not only at the ends of the text -/
  multiline : Bool := false
  /-- the dot accepts a line end -/
  dotAll : Bool := false
  /-- repetitions prefer few, and many where they are marked -/
  lazy : Bool := false

/-- Switches the option of a letter. -/
def Options.switch (o : Options) : Char × Bool → Options
  | ('i', on) => { o with ignoreCase := on }
  | ('m', on) => { o with multiline := on }
  | ('s', on) => { o with dotAll := on }
  | ('U', on) => { o with lazy := on }
  | _ => o

/-- Makes one text of texts of the same sort that stand side by side. -/
def joinTexts : List Regex → List Regex
  | [] => []
  | r :: rest =>
    match r, joinTexts rest with
    | .literal a f, .literal b g :: others =>
      if f = g then .literal (a ++ b) f :: others else .literal a f :: .literal b g :: others
    | r, others => r :: others

/-- Adds an alternative to others, the latest first. One that accepts any character makes one
character beside it superfluous. -/
def addAlternative (r : Regex) : List Regex → List Regex
  | [] => [r]
  | s :: rest =>
    if s.isAny && r.isCharacter then s :: rest
    else if r.isAny && s.isCharacter then r :: rest
    else r :: s :: rest

/-- A group that is still open: whether it counts, its options, the alternatives that are
finished, and the expressions of the current one. Both lists have the latest element first. -/
structure Frame where
  numbered : Bool
  options : Options
  finished : List Regex
  items : List Regex

def Frame.push (f : Frame) (r : Regex) : Frame := { f with items := r :: f.items }

/-- Ends the current alternative. Texts are joined only now, so that the latest character can be
repeated on its own. -/
def Frame.bar (f : Frame) : Frame :=
  let r := inSequence ((joinTexts f.items.reverse).flatMap parts)
  { f with finished := addAlternative r f.finished, items := [] }

/-- The expression of a finished group. -/
def Frame.regex (f : Frame) : Regex :=
  let r := match f.bar.finished with
    | [r] => r
    | rs => oneOf (factor (rs.reverse.flatMap alternatives))
  if f.numbered then .group r else r

/-- Repeats the latest expression. -/
def Frame.repeat (f : Frame) (r : Repetition) (operator : List Char) : Except Error Frame :=
  let tooMany : Except Error Frame := .error ⟨.invalidRepetitionSize, operator⟩
  if r.least > maxRepeat || r.most.any fun most => most < r.least || most > maxRepeat then tooMany
  else match f.items with
    | [] => .error ⟨.missingArgument, operator⟩
    | body :: items =>
      let repeated : Regex :=
        if r.counted then .counted body r.least r.most (r.marked != f.options.lazy)
        else match r.least, r.most with
          | 0, none => .star body
          | 0, some _ => .optional body
          | _, _ => .plus body
      let heavy := r.counted && (r.least ≥ 2 || r.most.any (· ≥ 2))
      if heavy && repeated.allowanceLeft maxRepeat = 0 then tooMany
      else .ok { f with items := repeated :: items }

/-- The open groups, the innermost apart. -/
structure Progress where
  current : Frame
  outer : List Frame

def Progress.push (p : Progress) (r : Regex) : Progress := { p with current := p.current.push r }

/-- Opens a group with the given options. -/
def Progress.open (p : Progress) (numbered : Bool) (o : Options) : Progress :=
  ⟨⟨numbered, o, [], []⟩, p.current :: p.outer⟩

/-- Takes one token in; `operator` is its text and `whole` the pattern. -/
def Progress.take (whole operator : List Char) (p : Progress) (t : Token) : Except Error Progress :=
  let options := p.current.options
  match t with
  | .literals codes => .ok (codes.foldl (fun p c => p.push (.ofCode options.ignoreCase c)) p)
  | .any => .ok (p.push (if options.dotAll then .any else .ofClass options.ignoreCase .anyInLine))
  | .lineStart => .ok (p.push (.assert (if options.multiline then .beginLine else .beginText)))
  | .lineEnd => .ok (p.push (.assert (if options.multiline then .endLine else .endText)))
  | .anchor a => .ok (p.push (.assert a))
  | .class parts negated =>
    .ok (p.push (.ofClass options.ignoreCase (.ofParts options.ignoreCase parts negated)))
  | .bar => .ok { p with current := p.current.bar }
  | .opening => .ok (p.open true options)
  | .closing =>
    match p.outer with
    | [] => .error ⟨.unexpectedParen, whole⟩
    | frame :: outer => .ok ⟨frame.push p.current.regex, outer⟩
  | .options changes opens =>
    let options := changes.foldl .switch options
    if opens then .ok (p.open false options)
    else .ok { p with current := { p.current with options } }
  | .repetition r => do return { p with current := ← p.current.repeat r operator }

/-- Reads tokens to the end. `stacked` is the text from a repetition on, when that is the
token before: a second one may not follow. -/
def parseFrom (whole : List Char) (p : Progress) (stacked : Option (List Char)) :
    (text : List Char) → Except Error Regex
  | [] =>
    match p.outer with
    | [] => .ok p.current.regex
    | _ :: _ => .error ⟨.missingParen, whole⟩
  | c :: text => do
    let (token, rest) ← readToken c text
    match token, stacked with
    | .repetition _, some operators => fault .stackedRepetition operators rest
    | token, _ =>
      let p ← p.take whole (before (c :: text) rest) token
      let stacked := match token with
        | .repetition _ => some (c :: text)
        | _ => none
      parseFrom whole p stacked (lastPart text rest)
termination_by text => text.length
decreasing_by
  have := length_lastPart_le text rest
  simp
  omega

/-- Reads a pattern, or says which rule it breaks first. -/
def parse (source : String) : Except Error Regex :=
  parseFrom source.toList ⟨⟨false, {}, [], []⟩, []⟩ none source.toList

end ShapeMatch.Regex
