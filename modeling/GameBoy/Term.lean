/-!
# Terms

A term is a name applied to terms, written `Name` or `Name(argument, argument)`. It is the form in
which instructions are shown and read.
-/

namespace GameBoy

/-- A name applied to terms. -/
inductive Term where
  | node (name : String) (args : List Term)
  deriving Repr

namespace Term

/-- A name alone. -/
def leaf (name : String) : Term := node name []

mutual

/-- A term as text. -/
def text : Term → String
  | node name [] => name
  | node name (a :: args) => name ++ "(" ++ text a ++ textRest args

/-- The text of the arguments after the first, and of the end of the term. -/
def textRest : List Term → String
  | [] => ")"
  | a :: args => ", " ++ text a ++ textRest args

end

/-- A piece of the text of a term. -/
inductive Token where
  /-- A name. -/
  | word (name : String)
  /-- The start of arguments. -/
  | openArgs
  /-- The end of arguments. -/
  | closeArgs
  /-- The end of an argument that another follows. -/
  | comma

/-- A name that has ended, as a piece of text; it is given backwards. -/
def Token.ofWord (reversed : List Char) : List Token :=
  if reversed.isEmpty then [] else [.word (String.ofList reversed.reverse)]

/-- The pieces of a text, after a part of a name that is given backwards. -/
def tokens (reversed : List Char) : List Char → List Token
  | [] => Token.ofWord reversed
  | '(' :: cs => Token.ofWord reversed ++ .openArgs :: tokens [] cs
  | ')' :: cs => Token.ofWord reversed ++ .closeArgs :: tokens [] cs
  | ',' :: cs => Token.ofWord reversed ++ .comma :: tokens [] cs
  | ' ' :: cs => Token.ofWord reversed ++ tokens [] cs
  | c :: cs => tokens (c :: reversed) cs

/-- Reads pieces of text. The names whose arguments are being read are given innermost first, each
with its finished arguments backwards; `current` is the argument that has just been read. -/
def read? (pending : List (String × List Term)) (current : Option Term) :
    List Token → Option Term
  | [] => if pending.isEmpty then current else none
  | .word name :: ts =>
    match current with
    | none => read? pending (some (leaf name)) ts
    | some _ => none
  | .openArgs :: ts =>
    match current with
    | some (node name []) => read? ((name, []) :: pending) none ts
    | _ => none
  | .comma :: ts =>
    match current, pending with
    | some t, (name, args) :: pending => read? ((name, t :: args) :: pending) none ts
    | _, _ => none
  | .closeArgs :: ts =>
    match current, pending with
    | some t, (name, args) :: pending =>
      read? pending (some (node name (t :: args).reverse)) ts
    | _, _ => none

/-- The term that a text shows. -/
def ofText? (s : String) : Option Term := read? [] none (tokens [] s.toList)

end Term

end GameBoy
