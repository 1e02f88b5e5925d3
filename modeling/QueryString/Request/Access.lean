import QueryString.Request.Basic
import QueryString.Value.Boolean
import QueryString.Value.Integer

/-!
# Reading the parameters of a request

A parameter that has several values is read as its first one, or as all of them. A value that is
not written as what is asked for counts as no value.
-/

namespace QueryString.Request

/-- Tells whether a request has parameters. -/
def hasParameters (r : Request) : Bool := !r.parameters.isEmpty

/-- Tells whether a parameter is there, with or without a value. -/
def isSet (r : Request) (name : Text) : Bool := r.parameters.contains name

/-! ## All values -/

/-- The values of a parameter. -/
def texts (r : Request) (name : Text) : List Text := r.parameters.values name

/-- The values of a parameter that are written as integers. -/
def integers (r : Request) (name : Text) : Except Error (List Int) :=
  (((r.texts name).mapM Integer.read).map (·.filterMap id)).mapError .tooLong

/-- The values of a parameter that are words for truth values. -/
def booleans (r : Request) (name : Text) : List Bool := (r.texts name).filterMap Boolean.read?

/-! ## First values -/

/-- The first value of a parameter. -/
def text? (r : Request) (name : Text) : Option Text := (r.texts name).head?

/-- The first value of a parameter; the default, if the parameter is not there. The default may be
no text at all. -/
def textOr (r : Request) (name : Text) (default : Option Text) : Option Text :=
  (r.text? name).or default

/-- The first value of a parameter; the empty text, if the parameter is not there. -/
def text (r : Request) (name : Text) : Text := (r.text? name).getD []

/-- The first value of a parameter as an integer; the default, if it is not written as one. -/
def integerOr (r : Request) (name : Text) (default : Int) : Except Error Int :=
  match r.text? name with
  | none => .ok default
  | some value => ((Integer.read value).map (·.getD default)).mapError .tooLong

/-- The first value of a parameter as an integer; zero, if it is not written as one. -/
def integer (r : Request) (name : Text) : Except Error Int := r.integerOr name 0

/-- The first value of a parameter as a truth value; the default, if it is not a word for one. -/
def booleanOr (r : Request) (name : Text) (default : Bool) : Bool :=
  ((r.text? name).bind Boolean.read?).getD default

/-- Tells whether the first value of a parameter is a word for true. -/
def boolean (r : Request) (name : Text) : Bool := r.booleanOr name false

end QueryString.Request
