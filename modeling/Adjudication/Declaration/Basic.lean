/-!
# Declarations

Declarations of classes and their like, as a scanner reports them, and why one of them cannot get a builder.
-/

namespace Adjudication

inductive DeclarationKind where
  | plainClass
  | interface
  | object
  | enumClass
  | annotationClass
  deriving DecidableEq, Repr

inductive Modifier where
  | data
  | abstract
  | sealed
  | opened
  | inner
  | value
  deriving DecidableEq, Repr

structure Declaration where
  name : String
  kind : DeclarationKind
  modifiers : List Modifier := []
  hasPrimaryConstructor : Bool := true
  deriving DecidableEq, Repr

namespace Declaration

def withModifier (d : Declaration) (modifier : Modifier) : Declaration :=
  { d with modifiers := d.modifiers ++ [modifier] }

def withoutPrimaryConstructor (d : Declaration) : Declaration :=
  { d with hasPrimaryConstructor := false }

def hasModifier (d : Declaration) (modifier : Modifier) : Bool := d.modifiers.contains modifier

def isAbstract (d : Declaration) : Bool :=
  d.kind == .interface || d.hasModifier .abstract || d.hasModifier .sealed

end Declaration

inductive Reason where
  | notAClass
  | abstract
  | notDataClass
  | noPrimaryConstructor
  deriving DecidableEq, Repr

namespace Reason

def message : Reason → String
  | .notAClass => "is not a class"
  | .abstract => "is abstract"
  | .notDataClass => "is not a data class"
  | .noPrimaryConstructor => "has no primary constructor"

def label : Reason → String
  | .notAClass => "NotAClass"
  | .abstract => "Abstract"
  | .notDataClass => "NotDataClass"
  | .noPrimaryConstructor => "NoPrimaryConstructor"

end Reason

structure Rejection where
  declaration : Declaration
  reason : Reason
  deriving DecidableEq, Repr

def Rejection.message (r : Rejection) : String := r.declaration.name ++ " " ++ r.reason.message

end Adjudication
