import MarketData.Proofs.Json.Documents
import MarketData.Proofs.Stock.Order
import MarketData.Proofs.Stock.Split
import MarketData.Proofs.Text.Upper

/-! Symbols in upper case. A symbol made from text is in upper case (`Symbol.isUpper_ofString`); one
read from JSON has the text of the JSON string, alone and in lists (`Symbol.parse_readJson_iff`,
`Symbol.parse_list_iff`), so it is in upper case only if that string is. Symbols in upper case are
told apart by what their texts become in upper case, and a stock request looks for each of them
under that text. -/

namespace MarketData

/-! ## Readers of other values -/

namespace Json

variable {α β : Type}

/-- Reads what `read` reads and turns it into another value. -/
def Reader.map (f : α → β) (read : Reader α) : Reader β := fun rest =>
  (read rest).map (Prod.map f id)

theorem parse_map (f : α → β) (read : Reader α) (input : Bytes) :
    parse (read.map f) input = (parse read input).map f := by
  unfold parse Reader.map
  cases hread : read input with
  | error halt => rfl
  | ok p =>
    obtain ⟨x, rest⟩ := p
    cases hblanks : skipBlanks rest <;> simp [bind, Except.bind, Except.map, hblanks, haltOn]

/-- What is read as `b` is what `b` is made of. -/
theorem parse_map_eq_ok_iff {f : α → β} {g : β → α} (hfg : ∀ b, f (g b) = b)
    (hgf : ∀ a, g (f a) = a) {read : Reader α} {input : Bytes} {b : β} :
    parse (read.map f) input = .ok b ↔ parse read input = .ok (g b) := by
  rw [parse_map]
  cases parse read input with
  | error e => simp [Except.map]
  | ok a =>
    simp only [Except.map, Except.ok.injEq]
    constructor
    · rintro rfl
      exact (hgf a).symm
    · rintro rfl
      exact hfg b

theorem moreItems_map (f : α → β) (read : Reader α) (fuel : Nat) :
    moreItems (read.map f) fuel = (moreItems read fuel).map (List.map f) := by
  induction fuel with
  | zero => rfl
  | succ fuel ih =>
    funext rest
    unfold Reader.map at ih ⊢
    simp only [moreItems, ih]
    cases skipBlanks rest with
    | nil => rfl
    | cons b r =>
      simp only
      split
      · rfl
      split
      · cases skipBlanks r with
        | nil => rfl
        | cons c r =>
          simp only
          split
          · rfl
          cases read (c :: r) with
          | error halt => rfl
          | ok p =>
            simp only [Except.map, bind, Except.bind, Prod.map, id]
            cases moreItems read fuel p.2 <;> rfl
      · rfl

theorem items_map (f : α → β) (read : Reader α) :
    items (read.map f) = (items read).map (List.map f) := by
  funext rest
  unfold items
  simp only [moreItems_map]
  unfold Reader.map
  simp only
  cases skipBlanks rest with
  | nil => rfl
  | cons b r =>
    simp only
    split
    · rfl
    cases read (b :: r) with
    | error halt => rfl
    | ok p =>
      simp only [Except.map, bind, Except.bind, Prod.map, id]
      cases moreItems read (p.2.length + 1) p.2 <;> rfl

namespace Typed

/-- What is reported of a value of the wrong type does not depend on the type expected. -/
theorem wrongType_map (f : α → β) (expected : String) (rest : Bytes) :
    (wrongType expected rest).map f = wrongType expected rest := by
  unfold wrongType
  cases rest with
  | nil => rfl
  | cons b r =>
    simp only
    split
    · cases word (asciiBytes "ull") r <;> rfl
    split
    · cases word (asciiBytes "rue") r <;> rfl
    split
    · cases word (asciiBytes "alse") r <;> rfl
    split
    · obtain _ | ⟨_ | _, _⟩ := Number.read true r <;> rfl
    split
    · obtain _ | ⟨_ | _, _⟩ := Number.read false (b :: r) <;> rfl
    split
    · cases Text.read r <;> rfl
    split
    · rfl
    split <;> rfl

theorem list_map (f : α → β) (read : Reader α) :
    list (read.map f) = (list read).map (List.map f) := by
  funext rest
  unfold list
  rw [items_map]
  unfold Reader.map
  simp only
  cases skipBlanks rest with
  | nil => rfl
  | cons b r =>
    simp only
    split
    · rfl
    · exact (wrongType_map ..).symm

end Typed

end Json

namespace Symbol

/-- The symbol has the text that it has in upper case. -/
def IsUpper (s : Symbol) : Prop := Upper.ofString s.text = s.text

instance (s : Symbol) : Decidable s.IsUpper := inferInstanceAs (Decidable (_ = _))

variable {s s' : Symbol} {symbols : SymbolSet} {input : Bytes}

theorem isUpper_ofString (text : String) : (ofString text).IsUpper := Upper.ofString_ofString text

theorem IsUpper.eq_ofString (h : s.IsUpper) : s = ofString s.text := by
  rw [ofString, h]

theorem IsUpper.eq (h : s.IsUpper) (h' : s'.IsUpper)
    (heq : Upper.ofString s.text = Upper.ofString s'.text) : s = s' := by
  rw [h.eq_ofString, h'.eq_ofString, ofString, ofString, heq]

/-- Of symbols in upper case a set holds one for each text in upper case. -/
theorem nodup_upper (h : ∀ s ∈ symbols.items, s.IsUpper) :
    (symbols.items.map fun s => Upper.ofString s.text).Nodup :=
  symbols.nodup.map_on fun s hs s' hs' heq => (h s hs).eq (h s' hs') heq

/-! ## Symbols read from JSON -/

theorem readJson_eq_map : readJson = Json.Typed.text.map mk := by
  funext rest
  rw [readJson, Json.Reader.map]
  cases Json.Typed.text rest <;> rfl

theorem parse_readJson_iff :
    Json.parse readJson input = .ok s ↔ Json.parse Json.Typed.text input = .ok s.text := by
  rw [readJson_eq_map]
  exact Json.parse_map_eq_ok_iff (fun _ => rfl) fun _ => rfl

theorem parse_list_iff {symbols : List Symbol} :
    Json.parse (Json.Typed.list readJson) input = .ok symbols ↔
      Json.parse (Json.Typed.list Json.Typed.text) input = .ok (symbols.map text) := by
  rw [readJson_eq_map, Json.Typed.list_map]
  exact Json.parse_map_eq_ok_iff (fun _ => by simp [Function.comp_def]) fun _ => by
    simp [Function.comp_def]

/-- A symbol is read back as it was written, also if it is not in upper case. -/
theorem parse_toJson (s : Symbol) :
    Json.parse readJson (Bytes.ofString s.toJson.compact) = .ok s :=
  parse_readJson_iff.mpr (Json.parse_compact_text s.text)

theorem parse_toJson_list (symbols : List Symbol) :
    Json.parse (Json.Typed.list readJson)
      (Bytes.ofString (Json.Value.array (symbols.map toJson)).compact) = .ok symbols := by
  have htexts : symbols.map toJson = (symbols.map text).map .text := by
    rw [List.map_map]
    rfl
  rw [htexts]
  exact parse_list_iff.mpr (Json.parse_compact_texts _)

end Symbol

/-! ## Symbols of a stock request -/

namespace Client

variable {env : Environment} {footing : Footing} {c : Client} {endpoints : List Endpoint}
  {symbols : SymbolSet} {o : RequestOptions} {s : Session} {data : StockData}

/-- The data of a stock request are gathered from the documents that its batch brought. -/
theorem gathers_of_getStock
    (h : (c.getStock env footing endpoints symbols o s).1.result = .ok data) :
    ∃ run, (c.getStock env footing endpoints symbols o s).1.run = some run ∧
      data.Gathers endpoints symbols (run.responses env) := by
  by_cases hflawed : Request.Flawed c.keys endpoints symbols o
  · obtain ⟨reason, hrefused⟩ : ∃ reason, c.getStock env footing endpoints symbols o s =
        (⟨.error (.invalidUrl reason), none⟩, s) := getStock_of_flawed hflawed
    rw [hrefused] at h
    contradiction
  obtain ⟨urls, -, -, hrun, hresult⟩ : ∃ urls,
      Request.stockUrls c.config c.keys endpoints symbols o = .ok urls ∧ urls ≠ [] ∧
        (c.getStock env footing endpoints symbols o s).1.run =
          some (c.fetched env footing urls s) ∧
        (c.getStock env footing endpoints symbols o s).1.result = _ :=
    getStock_of_wellFormed (Request.not_flawed_iff.mp hflawed)
  rw [hresult] at h
  refine ⟨_, hrun, ?_⟩
  obtain ⟨hcomplete, hall⟩ := gather_outcome.ok_iff.mp ⟨data, h⟩
  rw [gather_of_isComplete hcomplete] at h
  have hanswers : ∀ response ∈ (c.fetched env footing urls s).responses env,
      response.IsAnswer := by
    intro response hmem
    obtain ⟨url, hget⟩ := BatchRun.mem_responses.mp hmem
    exact hall url response hget
  obtain ⟨data', hok, hgathers⟩ := StockData.gathers_of_isAnswer endpoints symbols hanswers
  obtain rfl : data = data' := Except.ok.inj (h.symm.trans hok)
  exact hgathers

end Client

theorem StockData.Gathers.get?_upper {env : Environment} {endpoints : List Endpoint}
    {symbols : SymbolSet} {run : BatchRun} {data : StockData} {s : Symbol}
    (h : data.Gathers endpoints symbols (run.responses env)) (hs : s ∈ symbols.items)
    (hupper : s.IsUpper) : (∃ sections, data.get? s = some sections) ↔
      ∃ url document found, run.results.get? url = some document ∧
        document.member? (Upper.ofString s.text) = some found := by
  rw [h.symbol, hupper]
  constructor
  · rintro ⟨-, document, hmem, found, hfound⟩
    obtain ⟨url, hget⟩ := BatchRun.mem_responses.mp hmem
    exact ⟨url, document, found, hget, hfound⟩
  · rintro ⟨url, document, found, hget, hfound⟩
    exact ⟨hs, document, BatchRun.mem_responses.mpr ⟨url, hget⟩, found, hfound⟩

/-- **Symbols in upper case.** A symbol made from text is in upper case. A symbol read from JSON has
the text of the JSON string as it is, alone and in lists, so any symbol can be read. Two symbols in
upper case with the same text in upper case are equal, and a set does not hold both. A stock request
that brings data has them for such a symbol exactly if a document that it fetched has a member for
the symbol's text in upper case. -/
theorem symbols_upperCased (text : String) (s s' : Symbol) (listed : List Symbol) (input : Bytes)
    (env : Environment) (footing : Footing) (c : Client) (endpoints : List Endpoint)
    (symbols : SymbolSet) (o : RequestOptions) (session : Session) :
    (Symbol.ofString text).IsUpper ∧
    (Json.parse Symbol.readJson input = .ok s ↔ Json.parse Json.Typed.text input = .ok s.text) ∧
    (Json.parse (Json.Typed.list Symbol.readJson) input = .ok listed ↔
      Json.parse (Json.Typed.list Json.Typed.text) input = .ok (listed.map Symbol.text)) ∧
    Json.parse Symbol.readJson (Bytes.ofString s.toJson.compact) = .ok s ∧
    Json.parse (Json.Typed.list Symbol.readJson)
      (Bytes.ofString (Json.Value.array (listed.map Symbol.toJson)).compact) = .ok listed ∧
    (s.IsUpper → s'.IsUpper → Upper.ofString s.text = Upper.ofString s'.text → s = s') ∧
    ((∀ s ∈ symbols.items, s.IsUpper) →
      (symbols.items.map fun s => Upper.ofString s.text).Nodup) ∧
    ∀ data, (c.getStock env footing endpoints symbols o session).1.result = .ok data →
      ∃ run, (c.getStock env footing endpoints symbols o session).1.run = some run ∧
        data.Gathers endpoints symbols (run.responses env) ∧
        ∀ s ∈ symbols.items, s.IsUpper → ((∃ sections, data.get? s = some sections) ↔
          ∃ url document found, run.results.get? url = some document ∧
            document.member? (Upper.ofString s.text) = some found) := by
  refine ⟨Symbol.isUpper_ofString text, Symbol.parse_readJson_iff, Symbol.parse_list_iff,
    Symbol.parse_toJson s, Symbol.parse_toJson_list listed, Symbol.IsUpper.eq, Symbol.nodup_upper,
    ?_⟩
  intro data hok
  obtain ⟨run, hrun, hgathers⟩ := Client.gathers_of_getStock hok
  exact ⟨run, hrun, hgathers, fun s hs => hgathers.get?_upper hs⟩

/-! A symbol that is given in lower case, and a server that knows it in upper case. -/
namespace OneLower

def symbol : Symbol := .ofString "a"

def symbols : SymbolSet := .singleton symbol

def session : Session := .after (.installed {}) [] [] ⟨Policy.service, none⟩ 0

def call : Call StockData :=
  (OneKnown.client.getStock OneKnown.env .free [.quote] symbols {} session).1

theorem wellFormed : Request.WellFormed OneKnown.client.keys [.quote] symbols {} where
  endpoints_ne := by decide
  stock := by decide
  symbols_ne := by simp [symbols, Distinct.singleton]
  texts := by
    intro s hs
    obtain rfl := List.mem_singleton.mp hs
    decide +kernel
  signable := ⟨by decide, by simp⟩

theorem call_ok : (∃ data, call.result = .ok data) ∧ ∃ run, call.run = some run ∧
    ∃ url, run.results.get? url = some OneKnown.document := by
  obtain ⟨urls, hurls, hne, hrun, hresult⟩ : ∃ urls,
      Request.stockUrls OneKnown.client.config OneKnown.client.keys [.quote] symbols {} = .ok urls ∧
        urls ≠ [] ∧ call.run = some (OneKnown.client.fetched OneKnown.env .free urls session) ∧
        call.result = _ := Client.getStock_of_wellFormed wellFormed
  have hcomplete : (OneKnown.client.fetched OneKnown.env .free urls session).results.isComplete :=
    Client.fetched_isComplete Session.after_custody hne (OneKnown.serves urls)
  obtain ⟨hall, hanswered⟩ := Client.fetched_answered Session.after_custody hne hcomplete
  have hdocument : ∀ url v,
      (OneKnown.client.fetched OneKnown.env .free urls session).results.get? url = some v →
        v = OneKnown.document := by
    intro url v hget
    obtain ⟨-, config, log, hentry⟩ := hanswered url v hget
    rw [OneKnown.answered] at hentry
    exact (Except.ok.inj hentry).symm
  refine ⟨?_, _, hrun, ?_⟩
  · rw [hresult]
    refine Client.gather_outcome.ok_iff.mpr ⟨hcomplete, fun url v hget => ?_⟩
    rw [hdocument url v hget]
    exact .inr ⟨_, rfl⟩
  · obtain ⟨url, hurl⟩ := List.exists_mem_of_ne_nil _ hne
    obtain ⟨v, hget⟩ := hall url hurl
    exact ⟨url, hdocument url v hget ▸ hget⟩

end OneLower

theorem symbols_upperCased_oneLower : ∃ data sections, OneLower.call.result = .ok data ∧
    data.get? OneLower.symbol = some sections := by
  obtain ⟨⟨data, hok⟩, run, hrun, url, hget⟩ := OneLower.call_ok
  obtain ⟨hupper, -, -, -, -, -, -, hlookup⟩ :=
    symbols_upperCased "a" OneLower.symbol OneLower.symbol [] [] OneKnown.env .free
      OneKnown.client [.quote] OneLower.symbols {} OneLower.session
  obtain ⟨run', hrun', -, hfound⟩ := hlookup data hok
  obtain rfl : run = run' := Option.some.inj (hrun.symm.trans hrun')
  obtain ⟨sections, hsections⟩ :=
    (hfound OneLower.symbol (List.mem_singleton_self _) hupper).mpr
      ⟨url, OneKnown.document, _, hget, rfl⟩
  exact ⟨data, sections, hok, hsections⟩

/-- A lower-case JSON string is read as a symbol that is not in upper case, and a list can hold it
next to the symbol in upper case. -/
theorem symbols_upperCased_lowerJson :
    Json.parse Symbol.readJson (Bytes.ofString "\"tsla\"") = .ok ⟨"tsla"⟩ ∧
    ¬ Symbol.IsUpper ⟨"tsla"⟩ ∧
    (⟨"tsla"⟩ : Symbol) ≠ .ofString "tsla" ∧
    Json.parse (Json.Typed.list Symbol.readJson) (Bytes.ofString "[\"tsla\", \"TSLA\"]") =
      .ok [⟨"tsla"⟩, .ofString "tsla"] ∧
    (Distinct.ofList [⟨"tsla"⟩, Symbol.ofString "tsla"]).items.length = 2 :=
  ⟨rfl, by decide +kernel, by decide +kernel, rfl, by decide +kernel⟩

end MarketData
