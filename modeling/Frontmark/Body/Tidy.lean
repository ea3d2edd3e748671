import Frontmark.Inline.Autolink
import Frontmark.Options

/-! The last touch to the text of a document: pieces of text that lie side by side are one text, and a
text that starts with a check box makes a task of its item. Bare mail addresses become links. What is in
a link or an image is left as it is. -/

set_option autoImplicit false

namespace Frontmark.Body

open Frontmark.Text
open Frontmark.Markup (RoseTree Value)
open Frontmark.Inline (textTree linkTo mailto)

/-- Join texts that are neighbours. -/
def joinTexts : List (RoseTree Value) → List (RoseTree Value)
  | [] => []
  | t :: ts =>
    match t, joinTexts ts with
    | .node (.text first) _, .node (.text second) _ :: rest => .node (.text (first ++ second)) [] :: rest
    | t, rest => t :: rest

/-- The mark in the check box at the start of a text, and the text after the box. -/
def checkBox? (text : List Char) : Option (Char × List Char) :=
  match dropGaps text with
  | '[' :: mark :: ']' :: rest =>
    if (mark = ' ' || mark = 'x' || mark = 'X') && (rest.head?.all isGap) then some (mark, rest.tail) else none
  | _ => none

/-- An item whose first paragraph starts with a check box is a task. -/
def markTask (t : RoseTree Value) : RoseTree Value :=
  match t with
  | .node (.item _) (.node .paragraph texts :: others) =>
    match joinTexts texts with
    | .node (.text literal) _ :: rest =>
      match checkBox? literal.toList with
      | some (mark, text) =>
        .node (.extension (.taskItem (if mark = ' ' then none else some mark)))
          (.node .paragraph (textTree text :: rest) :: others)
      | none => t
    | _ => t
  | t => t

/-- How far a mail address reaches back from its at sign, and which schemes it has. -/
structure Mailbox where
  found : List Char := []
  hasScheme : Bool := false
  chat : Bool := false

/-- Read a mailbox backwards. A colon belongs to it only after one of two schemes. -/
def mailbox : (limit : Nat) → Mailbox → (before : List Char) → Mailbox
  | 0, m, _ => m
  | _, m, [] => m
  | limit + 1, m, c :: before =>
    let scheme := (before.takeWhile isLetter).reverse
    if isAlphanumeric c || c = '.' || c = '+' || c = '-' || c = '_' then
      mailbox limit { m with found := c :: m.found } before
    else if c = ':' && scheme = "mailto".toList then
      mailbox limit { m with found := c :: m.found, hasScheme := true } before
    else if c = ':' && scheme = "xmpp".toList then
      mailbox limit { found := c :: m.found, hasScheme := true, chat := true } before
    else m

/-- The domain after an at sign, last character first, and how many periods it has; `none` where a
second at sign follows. -/
def mailDomain? (chat : Bool) : (found : List Char) → (periods : Nat) → List Char → Option (List Char × Nat)
  | found, periods, [] => some (found, periods)
  | found, periods, c :: text =>
    if isAlphanumeric c || c = '-' || c = '_' || (c = '/' && chat) then
      mailDomain? chat (c :: found) periods text
    else if c = '.' && (text.head?.any isAlphanumeric) then mailDomain? chat (c :: found) (periods + 1) text
    else if c = '@' then none
    else some (found, periods)

/-- An address around an at sign: what it takes of the text before and after that, and its link.
`before` is reversed and `after` starts with the at sign. -/
def mail? (before after : List Char) : Option (Nat × Nat × RoseTree Value) :=
  let m := mailbox before.length {} before
  match mailDomain? m.chat [] 0 after.tail with
  | none => none
  | some (domain, periods) =>
    let reversed := domain ++ ['@']
    let ends := domain.head?.any fun c => isLetter c || c = '.'
    if m.found.isEmpty || periods = 0 || !ends then none
    else
      let address := Inline.trimAddress reversed.reverse
      if address.isEmpty then none
      else
        let text := m.found ++ address
        some (m.found.length, address.length, linkTo (if m.hasScheme then text else mailto ++ text) text)

/-- The first address outside brackets: the text before it, its link and the text after it. -/
def firstMail? : (before : List Char) → (depth : Int) → List Char → Option (List Char × RoseTree Value × List Char)
  | _, _, [] => none
  | before, depth, c :: text =>
    let depth := if c = '[' then depth + 1 else if c = ']' then depth - 1 else depth
    let found := if c = '@' && depth ≤ 0 then mail? before (c :: text) else none
    match found with
    | some (back, length, link) => some ((before.drop back).reverse, link, (c :: text).drop length)
    | none => firstMail? (c :: before) depth text

/-- A text with the addresses in it as links. The text before an address is kept even when it is empty. -/
def linkMails : (limit : Nat) → List Char → List (RoseTree Value)
  | 0, text => [textTree text]
  | limit + 1, text =>
    match firstMail? [] 0 text with
    | none => [textTree text]
    | some (before, link, rest) =>
      textTree before :: link :: if rest.isEmpty then [] else linkMails limit rest

def linkMailsIn (o : Options) (t : RoseTree Value) : List (RoseTree Value) :=
  match t with
  | .node (.text literal) _ => if o.autolink then linkMails literal.length literal.toList else [t]
  | t => [t]

mutual

def markTasks : RoseTree Value → RoseTree Value
  | .node v cs =>
    match v with
    | .link .. | .image .. => .node v cs
    | _ => markTask (.node v (markTasksAmong cs))

def markTasksAmong : List (RoseTree Value) → List (RoseTree Value)
  | [] => []
  | t :: ts => markTasks t :: markTasksAmong ts

end

mutual

def joinAll (o : Options) : RoseTree Value → RoseTree Value
  | .node v cs =>
    match v with
    | .link .. | .image .. => .node v cs
    | _ => .node v ((joinTexts (joinAmong o cs)).flatMap (linkMailsIn o))

def joinAmong (o : Options) : List (RoseTree Value) → List (RoseTree Value)
  | [] => []
  | t :: ts => joinAll o t :: joinAmong o ts

end

/-- A check box is seen before any address is. -/
def tidy (o : Options) (t : RoseTree Value) : RoseTree Value :=
  joinAll o (if o.tasklist then markTasks t else t)

end Frontmark.Body
