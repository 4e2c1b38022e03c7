import QuotaRing.Text.Spelling
import QuotaRing.Wire.Codec

/-!
# Request methods that a limit can name

Nine methods of HTTP and one name that stands for every method.
-/

namespace QuotaRing.Limit

/-- A method that a limit names. -/
inductive Method where
  | get
  | head
  | post
  | put
  | patch
  | delete
  | options
  | connect
  | trace
  /-- Every method. -/
  | any
  deriving DecidableEq, Repr

namespace Method

/-- All methods in the order of their numbers on the wire. -/
def all : List Method :=
  [get, head, post, put, patch, delete, options, connect, trace, any]

/-- The name of a method in configurations and reports. -/
def name : Method → String
  | get => "GET"
  | head => "HEAD"
  | post => "POST"
  | put => "PUT"
  | patch => "PATCH"
  | delete => "DELETE"
  | options => "OPTIONS"
  | connect => "CONNECT"
  | trace => "TRACE"
  | any => "ALL"

def named? (text : String) : Option Method :=
  all.find? fun method => method.name == text

def unknownMessage (text : String) : String :=
  "Invalid http method: " ++ text

/-- The method a text spells, in any case and between blanks. -/
def read (text : String) : Except String Method :=
  match Text.spelled? all name text with
  | some method => .ok method
  | none => .error (unknownMessage text)

theorem mem_all (method : Method) : method ∈ all := by
  cases method <;> decide

instance : Wire.Coded Method where
  encode := Wire.encodeIndex all
  decodePrefix := Wire.decodeIndex all

end Method

end QuotaRing.Limit
