import Adjudication.Json.Number

/-!
# JSON as it is read

A tree holds what could be read of a JSON text, up to the first place where the text is broken. Nothing after
that place is kept, so whoever walks a tree in reading order meets first what comes first in the text.
-/

namespace Adjudication.Json

mutual

/-- What was read of a value. A string with half a surrogate pair in it is a token, but no text. -/
inductive Tree where
  | null
  | boolean (value : Bool)
  | number (spelling : Number)
  | string (text : Option String)
  | array (items : Items)
  | object (members : Members)
  | broken

inductive Items where
  | close
  | item (tree : Tree) (rest : Items)
  | broken

inductive Members where
  | close
  | member (key : Option String) (value : Tree) (rest : Members)
  | broken

end

instance : Inhabited Tree := ⟨.broken⟩

mutual

def Tree.isWhole : Tree → Bool
  | .array items => items.isWhole
  | .object members => members.isWhole
  | .broken => false
  | _ => true

def Items.isWhole : Items → Bool
  | .close => true
  | .item tree rest => tree.isWhole && rest.isWhole
  | .broken => false

def Members.isWhole : Members → Bool
  | .close => true
  | .member _ value rest => value.isWhole && rest.isWhole
  | .broken => false

end

/-- What was read of a whole text: a value, and whether nothing but blanks follows it. -/
structure Document where
  tree : Tree
  ends : Bool

end Adjudication.Json
