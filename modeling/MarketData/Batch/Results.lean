import MarketData.HashOrder
import MarketData.Pool

/-! The outcome of a batch: for each of its URLs the document that was fetched, or why there is
none. -/

namespace MarketData

/-- Why a URL brought no document. -/
inductive FetchError
  | invalidUrl (fault : UrlFault)
  | setup (reason : String)
  | driver (reason : String)
  | transport (fault : TransportFault)
  | emptyResponse
  | malformed (error : Json.Error)
deriving DecidableEq, Repr

namespace FetchError

def message : FetchError → String
  | .invalidUrl fault => fault.message
  | .setup reason => "Transport initialization failed: " ++ reason
  | .driver reason => "Failed to start I/O driver: " ++ reason
  | .transport fault => "Transport failure: " ++ fault.message
  | .emptyResponse => "Empty response body"
  | .malformed error => "Invalid JSON in response: " ++ error.message

/-- The chain of causes below the message. -/
def causes : FetchError → List String
  | .transport fault => fault.message :: fault.causes
  | .malformed error => [error.message]
  | _ => []

/-- The error status, if the server answered with one. -/
def status? : FetchError → Option Status
  | .transport fault => fault.status?
  | _ => none

end FetchError

/-- What there is for one URL. -/
abbrev Entry := Except FetchError Json.Value

/-- Reads a body that arrived completely. -/
def Entry.ofBody (body : Bytes) : Entry :=
  if body.isEmpty then .error .emptyResponse
  else
    match Json.Value.parse body with
    | .ok document => .ok document
    | .error e => .error (.malformed e)

def Entry.ofTransfer (body : Bytes) : Ending → Entry
  | .done => Entry.ofBody body
  | .failed fault => .error (.transport fault)

/-- The failures of a batch of `total` URLs. -/
structure BatchError where
  failures : List (Url × FetchError)
  total : Nat
deriving DecidableEq, Repr

def BatchError.message (e : BatchError) : String :=
  let describe (failure : Url × FetchError) : String :=
    "[" ++ failure.1.text ++ ": " ++ failure.2.message ++ "]"
  toString e.failures.length ++ " of " ++ toString e.total ++ " urls failed: " ++
    ", ".intercalate (e.failures.map describe)

structure Results where
  entries : SortedMap Url Entry

namespace Results

def empty : Results := ⟨∅⟩

def record (r : Results) (url : Url) (entry : Entry) : Results := ⟨r.entries.insert url entry⟩

/-- Every URL failed for the same reason. -/
def allFailed (urls : UrlSet) (e : FetchError) : Results :=
  urls.items.foldl (fun r url => r.record url (.error e)) empty

def contains (r : Results) (url : Url) : Bool := r.entries.contains url

/-- The document of a URL. -/
def get? (r : Results) (url : Url) : Option Json.Value := (r.entries.get? url).bind (·.toOption)

/-- The failure of a URL. -/
def error? (r : Results) (url : Url) : Option FetchError :=
  (r.entries.get? url).bind fun
    | .ok _ => none
    | .error e => some e

/-- Takes the entry of a URL out. -/
def remove (r : Results) (url : Url) : Option Entry × Results :=
  (r.entries.get? url, ⟨r.entries.erase url⟩)

def size (r : Results) : Nat := r.entries.size

def isEmpty (r : Results) : Bool := r.entries.isEmpty

def toList (r : Results) : List (Url × Entry) := r.entries.entries

/-- The failures among these entries. -/
def failuresOf (entries : List (Url × Entry)) : List (Url × FetchError) :=
  entries.filterMap fun (url, entry) =>
    match entry with
    | .ok _ => none
    | .error e => some (url, e)

def failures (r : Results) : List (Url × FetchError) := failuresOf r.toList

def documents (r : Results) : List (Url × Json.Value) :=
  r.toList.filterMap fun (url, entry) =>
    match entry with
    | .ok document => some (url, document)
    | .error _ => none

/-- Every URL brought a document. -/
def isComplete (r : Results) : Bool := r.toList.all fun (_, entry) => entry.isOk

/-- All documents, or all failures in the order in which the entries are handed out. -/
def toExcept (order : HashOrder Url) (r : Results) :
    Except BatchError (SortedMap Url Json.Value) :=
  let failures := failuresOf (order.handOut r.toList)
  if failures.isEmpty then .ok (SortedMap.ofList r.documents) else .error ⟨failures, r.size⟩

end Results

end MarketData
