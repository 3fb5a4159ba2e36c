import TreeDump.Pattern.Mode
import TreeDump.Text.Letter

namespace TreeDump.Pattern

inductive Group where
  /-- Flags for the rest of the group around it. -/
  | flags (mode : Mode)
  /-- An inside, with all names given up to here. -/
  | inner (mode : Mode) (names : List (List Char))

/-- Flags do not repeat, and a hyphen among them is not the last. `seen` are those in front, in
    reverse. -/
def areFlags (seen : List Char) : List Char → Bool
  | [] => seen.head? != some '-'
  | c :: cs =>
    ['i', 'm', 's', 'U', 'u', 'R', 'x', '-'].contains c && !seen.contains c && areFlags (c :: seen) cs

def isGroupName : List Char → Bool
  | [] => false
  | c :: cs =>
    (c == '_' || Text.isLetter c) &&
      cs.all fun c => ['_', '.', '[', ']'].contains c || Text.isLetterOrNumber c

/-- Reads the name of a group, which no other group may have. -/
def readGroupName (mode : Mode) (names : List (List Char)) (text : List Char) :
    Option (Group × List Char) :=
  let name := text.takeWhile (· != '>')
  match text.drop name.length with
  | [] => none
  | _ :: rest =>
    if isGroupName name && !names.contains name then some (.inner mode (name :: names), rest) else none

/-- Reads what stands behind an opening parenthesis. -/
def readGroup (mode : Mode) (names : List (List Char)) : List Char → Option (Group × List Char)
  | '?' :: 'P' :: '<' :: text => readGroupName mode names text
  | '?' :: '<' :: text => readGroupName mode names text
  | '?' :: text =>
    let flags := text.takeWhile fun c => c != ':' && c != ')'
    match text.drop flags.length with
    | ':' :: rest => if areFlags [] flags then some (.inner (mode.apply flags) names, rest) else none
    | ')' :: rest =>
      if areFlags [] flags && !flags.isEmpty then some (.flags (mode.apply flags), rest) else none
    | _ => none
  | text => some (.inner mode names, text)

end TreeDump.Pattern
