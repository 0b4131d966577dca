import Mathlib.Data.List.Forall2
import MarketData.Proofs.Request.Said

/-! One request under two tokens. Its parameters differ in the value of `token` alone
(`Params.DifferAt`), so either no URL can be made, for the same reason, or the two URLs differ in
the value of that parameter (`Request.endpointUrl_both`). The URLs of a stock request do so one by
one (`Request.stockUrls_both`). -/

namespace MarketData

/-! ## Two computations -/

namespace Steps

variable {ε α β γ δ : Type} {R : α → β → Prop} {S : γ → δ → Prop} {x : Except ε α} {y : Except ε β}

/-- Both fail in the same way, or both succeed, with values that correspond. -/
inductive Both (R : α → β → Prop) : Except ε α → Except ε β → Prop
  | ok : R a b → Both R (.ok a) (.ok b)
  | error : Both R (.error e) (.error e)

namespace Both

theorem refl {x : Except ε α} : Both (· = ·) x x := by
  cases x with
  | ok a => exact .ok rfl
  | error e => exact .error

/-- Values that correspond are those that the computations gave. -/
theorem given (h : Both R x y) : Both (fun a b => x = .ok a ∧ y = .ok b ∧ R a b) x y := by
  cases h with
  | ok hab => exact .ok ⟨rfl, rfl, hab⟩
  | error => exact .error

theorem bind {f : α → Except ε γ} {g : β → Except ε δ} (h : Both R x y)
    (hnext : ∀ a b, R a b → Both S (f a) (g b)) : Both S (x >>= f) (y >>= g) := by
  cases h with
  | ok hab => exact hnext _ _ hab
  | error => exact .error

theorem mapM {f : γ → Except ε α} {g : γ → Except ε β} {xs : List γ}
    (h : ∀ x ∈ xs, Both R (f x) (g x)) : Both (List.Forall₂ R) (xs.mapM f) (xs.mapM g) := by
  induction xs with
  | nil => exact .ok .nil
  | cons x xs ih =>
    obtain ⟨hx, hxs⟩ := List.forall_mem_cons.mp h
    rw [List.mapM_cons, List.mapM_cons]
    refine hx.bind fun a b hab => ?_
    refine (ih hxs).bind fun as bs has => ?_
    exact .ok (.cons hab has)

end Both

end Steps

/-! ## Parameters -/

namespace Params

variable {params params' : Params} {key value value' : String}

/-- The parameters differ in the value of one key. -/
structure DifferAt (key value value' : String) (params params' : Params) : Prop where
  left : params.values.get? key = some value
  right : params'.values.get? key = some value'
  others : ∀ k, k ≠ key → params'.values.get? k = params.values.get? k

theorem DifferAt.put (h : params.values.get? key = none) :
    DifferAt key value value' (params.insert ⟨key, value⟩) (params.insert ⟨key, value'⟩) where
  left := by simp [get?_insert, h]
  right := by simp [get?_insert, h]
  others := by
    intro k hk
    simp [get?_insert, hk]

theorem DifferAt.insert (h : DifferAt key value value' params params') (p : Param) :
    DifferAt key value value' (params.insert p) (params'.insert p) where
  left := get?_insert_of_some h.left
  right := get?_insert_of_some h.right
  others := by
    intro k hk
    rw [get?_insert, get?_insert, h.others k hk]
    by_cases hp : k = p.key
    · rw [← hp, h.others k hk]
    · simp [hp]

theorem DifferAt.foldl_insertPair (h : DifferAt key value value' params params')
    (pairs : List (String × String)) :
    DifferAt key value value' (pairs.foldl insertPair params) (pairs.foldl insertPair params') := by
  induction pairs generalizing params params' with
  | nil => exact h
  | cons pair pairs ih => exact ih (h.insert _)

/-- Options that cannot be added to one of them cannot be added to the other. -/
theorem DifferAt.addPairs (h : DifferAt key value value' params params')
    (pairs : List (String × String)) :
    Steps.Both (DifferAt key value value') (params.addPairs pairs) (params'.addPairs pairs) := by
  induction pairs generalizing params params' with
  | nil => exact .ok h
  | cons pair pairs ih =>
    rw [addPairs_cons, addPairs_cons]
    refine Steps.Both.refl.bind fun p p' hp => ?_
    subst hp
    exact ih (h.insert p)

/-- The entries differ in one place. -/
theorem DifferAt.entries (h : DifferAt key value value' params params') :
    ∃ before after, params.entries = before ++ (key, value) :: after ∧
      params'.entries = before ++ (key, value') :: after :=
  SortedMap.entries_split h.left h.right h.others

/-! ## Queries -/

def entryText (e : String × String) : List Char := e.1.toList ++ '=' :: e.2.toList

theorem intercalate_cons (c : Char) (word : List Char) (words : List (List Char)) :
    [c].intercalate (word :: words) = word ++ words.flatMap (c :: ·) := by
  induction words generalizing word with
  | nil => simp
  | cons word' words ih =>
    rw [List.intercalate_cons_cons, ih, List.flatMap_cons, List.append_assoc]
    rfl

theorem intercalate_append_cons (c : Char) (word : List Char) (front back : List (List Char)) :
    [c].intercalate (front ++ word :: back) =
      front.flatMap (· ++ [c]) ++ word ++ back.flatMap (c :: ·) := by
  induction front with
  | nil => rw [List.nil_append, intercalate_cons, List.flatMap_nil, List.nil_append]
  | cons first front ih =>
    obtain ⟨next, rest, hnext⟩ := List.exists_cons_of_ne_nil
      (List.append_ne_nil_of_right_ne_nil front (List.cons_ne_nil word back))
    rw [List.cons_append, hnext, List.intercalate_cons_cons, ← hnext, ih, List.flatMap_cons]
    simp only [List.append_assoc]

/-- A query around one of its parameters. -/
theorem query_of_entries {before after : List (String × String)}
    (h : params.entries = before ++ (key, value) :: after) :
    params.query.toList = before.flatMap (entryText · ++ ['&']) ++ entryText (key, value) ++
      after.flatMap ('&' :: entryText ·) := by
  rw [query_toList, h, List.map_append, List.map_cons, intercalate_append_cons, List.flatMap_map,
    List.flatMap_map]
  rfl

end Params

/-! ## URLs that differ in their token -/

/-- The URLs differ in the value of a `token` parameter alone. -/
inductive Url.SameButToken : Url → Url → Prop
  | intro : mark = "?" ∨ mark = "&" → after = "" ∨ (∃ rest, after = "&" ++ rest) →
    SameButToken ⟨before ++ mark ++ "token=" ++ Percent.encode token ++ after⟩
      ⟨before ++ mark ++ "token=" ++ Percent.encode token' ++ after⟩

namespace Url

theorem sameButToken_of_toList (before : List Char) {after : List Char} {mark : Char}
    {url url' : Url} (token token' : String) (hmark : mark = '?' ∨ mark = '&')
    (hafter : after = [] ∨ ∃ rest, after = '&' :: rest)
    (htext : url.text.toList =
      before ++ mark :: Params.entryText ("token", Percent.encode token) ++ after)
    (htext' : url'.text.toList =
      before ++ mark :: Params.entryText ("token", Percent.encode token') ++ after) :
    url.SameButToken url' := by
  have hwritten : ∀ {u : Url} {t : String}, u.text.toList =
      before ++ mark :: Params.entryText ("token", Percent.encode t) ++ after →
      u = ⟨String.ofList before ++ String.ofList [mark] ++ "token=" ++ Percent.encode t ++
        String.ofList after⟩ := by
    intro u t h
    obtain ⟨text⟩ := u
    congr 1
    rw [← String.toList_inj, h]
    simp [Params.entryText]
  rw [hwritten htext, hwritten htext']
  refine .intro ?_ ?_
  · rcases hmark with rfl | rfl
    · exact .inl rfl
    · exact .inr rfl
  · rcases hafter with rfl | ⟨rest, rfl⟩
    · exact .inl rfl
    · exact .inr ⟨String.ofList rest, by rw [← String.toList_inj]; simp⟩

theorem withParams_both {base token token' : String} {params params' : Params}
    (hbase : base ≠ "")
    (h : Params.DifferAt "token" (Percent.encode token) (Percent.encode token') params params') :
    Steps.Both SameButToken (withParams base params) (withParams base params') := by
  obtain ⟨before, after, hentries, hentries'⟩ := h.entries
  have hquery := Params.query_of_entries hentries
  have hquery' := Params.query_of_entries hentries'
  have hafter : after.flatMap ('&' :: Params.entryText ·) = [] ∨
      ∃ rest, after.flatMap ('&' :: Params.entryText ·) = '&' :: rest := by
    cases after with
    | nil => exact .inl rfl
    | cons e after => exact .inr ⟨_, rfl⟩
  rw [withParams_of_ne hbase (Params.isEmpty_eq_false_of_get? h.left),
    withParams_of_ne hbase (Params.isEmpty_eq_false_of_get? h.right)]
  refine .ok ?_
  -- The mark before the name is that of the query, unless other parameters come first.
  rcases List.eq_nil_or_concat' before with rfl | ⟨front, e, rfl⟩
  · refine sameButToken_of_toList base.toList token token' (.inl rfl) hafter ?_ ?_
    · simp [hquery]
    · simp [hquery']
  · refine sameButToken_of_toList (base.toList ++ '?' ::
      front.flatMap (Params.entryText · ++ ['&']) ++ Params.entryText e) token token' (.inr rfl)
      hafter ?_ ?_
    · simp [hquery]
    · simp [hquery']

end Url

/-! ## Requests -/

namespace Request

variable {config : ServiceConfig} {keys keys' : Keys} {endpoints : List Endpoint}
  {o : RequestOptions}

theorem token_both (h : keys.token o.dataType ≠ "") (h' : keys'.token o.dataType ≠ "") :
    Steps.Both (fun p p' : Param => p = ⟨"token", Percent.encode (keys.token o.dataType)⟩ ∧
        p' = ⟨"token", Percent.encode (keys'.token o.dataType)⟩)
      (Param.single "token" (keys.token o.dataType))
      (Param.single "token" (keys'.token o.dataType)) := by
  have hname : "token" ≠ "" := by decide
  rw [Param.single_eq_ok_iff.mpr ⟨hname, h, rfl⟩, Param.single_eq_ok_iff.mpr ⟨hname, h', rfl⟩]
  exact .ok ⟨rfl, rfl⟩

/-- Under two tokens a basic request has the same fault, or two URLs that differ in the token. -/
theorem endpointUrl_both (h : keys.token o.dataType ≠ "") (h' : keys'.token o.dataType ≠ "")
    (endpoint : Endpoint) :
    Steps.Both Url.SameButToken (endpointUrl config keys endpoint o)
      (endpointUrl config keys' endpoint o) := by
  unfold endpointUrl
  refine (token_both h h').bind ?_
  rintro _ _ ⟨rfl, rfl⟩
  refine ((Params.DifferAt.put rfl).addPairs o.options).bind fun params params' hparams => ?_
  refine Url.withParams_both ?_ hparams
  simp [String.append_eq_empty_iff]

theorem stockUrl_both (h : keys.token o.dataType ≠ "") (h' : keys'.token o.dataType ≠ "")
    (symbols : List Symbol) :
    Steps.Both Url.SameButToken (stockUrl config keys endpoints symbols o)
      (stockUrl config keys' endpoints symbols o) := by
  unfold stockUrl
  refine Steps.Both.refl.given.bind ?_
  rintro symbolList _ ⟨hsymbols, -, rfl⟩
  refine Steps.Both.refl.given.bind ?_
  rintro types _ ⟨htypes, -, rfl⟩
  refine (token_both h h').bind ?_
  rintro _ _ ⟨rfl, rfl⟩
  obtain ⟨-, -, -, rfl⟩ := Param.list_eq_ok_iff.mp hsymbols
  obtain ⟨-, -, -, rfl⟩ := Param.list_eq_ok_iff.mp htypes
  refine ((Params.DifferAt.put ?_).addPairs o.options).bind fun params params' hparams => ?_
  · simp [Params.get?_insert, Params.get?_empty]
  · refine Url.withParams_both ?_ hparams
    simp [String.append_eq_empty_iff]

/-- Under two tokens a stock request has the same fault, or URLs that differ in their tokens. -/
theorem stockUrls_both (h : keys.token o.dataType ≠ "") (h' : keys'.token o.dataType ≠ "")
    (symbols : SymbolSet) :
    Steps.Both (List.Forall₂ Url.SameButToken) (stockUrls config keys endpoints symbols o)
      (stockUrls config keys' endpoints symbols o) :=
  Steps.Both.mapM fun chunk _ => stockUrl_both h h' chunk

end Request

end MarketData
