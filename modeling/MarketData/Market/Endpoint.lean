import MarketData.Json.Typed

/-! What can be asked of the market data service: resources, versions of the interface, and
production or sandbox data. Each has a name in JSON and one in diagnostic output. -/

namespace MarketData

inductive Endpoint
  | symbols
  | systemStatus
  | quote
  | company
deriving DecidableEq, Repr

namespace Endpoint

def all : List Endpoint := [symbols, systemStatus, quote, company]

def rank : Endpoint → Nat
  | symbols => 0
  | systemStatus => 1
  | quote => 2
  | company => 3

/-- Endpoints are ordered as in `all`. -/
instance : Ord Endpoint := ⟨compareOn rank⟩

instance : Std.TransOrd Endpoint := inferInstanceAs (Std.TransCmp (compareOn rank))

instance : Std.LawfulEqOrd Endpoint where
  eq_of_compare {a b} h := by
    have hrank : compare (rank a) (rank b) = .eq := h
    have := Std.LawfulEqCmp.compare_eq_iff_eq.mp hrank
    cases a <;> cases b <;> simp_all [rank]

/-- The path below the version of the interface. -/
def path : Endpoint → String
  | symbols => "ref-data/symbols"
  | systemStatus => "status"
  | quote => "quote"
  | company => "company"

/-- The name shown to people. -/
def title : Endpoint → String
  | symbols => "Stock Symbols"
  | systemStatus => "System Status"
  | quote => "Quote"
  | company => "Company"

/-- Stock endpoints are asked for one or more symbols, the basic ones as they are. -/
def isStock : Endpoint → Bool
  | quote | company => true
  | symbols | systemStatus => false

def jsonName : Endpoint → String
  | symbols => "symbols"
  | systemStatus => "system_status"
  | quote => "quote"
  | company => "company"

def debug : Endpoint → String
  | symbols => "Symbols"
  | systemStatus => "SystemStatus"
  | quote => "Quote"
  | company => "Company"

def ofName? (name : String) : Option Endpoint := all.find? (·.jsonName == name)

def readJson : Json.Reader Endpoint := Json.Typed.choice (all.map fun e => (e.jsonName, e))

end Endpoint

inductive Version
  | stable
  | v1
  | beta
deriving DecidableEq, Repr

namespace Version

def all : List Version := [stable, v1, beta]

/-- The path segment of the version. -/
def path : Version → String
  | stable => "stable"
  | v1 => "v1"
  | beta => "beta"

def debug : Version → String
  | stable => "Stable"
  | v1 => "V1"
  | beta => "Beta"

def ofName? (name : String) : Option Version := all.find? (·.path == name)

def readJson : Json.Reader Version := Json.Typed.choice (all.map fun v => (v.path, v))

end Version

/-- Whose data is asked for: that of the market, or randomized data that counts against no quota. -/
inductive DataType
  | authentic
  | sandbox
deriving DecidableEq, Repr

namespace DataType

def all : List DataType := [authentic, sandbox]

def jsonName : DataType → String
  | authentic => "authentic"
  | sandbox => "sandbox"

def debug : DataType → String
  | authentic => "Authentic"
  | sandbox => "Sandbox"

def ofName? (name : String) : Option DataType := all.find? (·.jsonName == name)

def readJson : Json.Reader DataType := Json.Typed.choice (all.map fun d => (d.jsonName, d))

end DataType

end MarketData
