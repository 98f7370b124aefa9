import RouteAtlas.Options.Document
import RouteAtlas.Route.Document

set_option autoImplicit false

namespace RouteAtlas

theorem mapM_map_eq_some {α β γ : Type} {write : α → β} {read? : β → Option γ} {value : α → γ}
    {xs : List α} (h : ∀ x ∈ xs, read? (write x) = some (value x)) :
    (xs.map write).mapM read? = some (xs.map value) := by
  induction xs with
  | nil => rfl
  | cons x xs ih =>
    have hxs := ih fun y hy => h y (List.mem_cons_of_mem x hy)
    simp [h x List.mem_cons_self, hxs]

theorem mapM_map_eq_self {α β : Type} {write : α → β} {read? : β → Option α}
    (h : ∀ x, read? (write x) = some x) (xs : List α) : (xs.map write).mapM read? = some xs :=
  (mapM_map_eq_some fun x _ => h x).trans (congrArg some (List.map_id xs))

namespace Json

def written (fields : List (String × Option Json)) : List (String × Json) :=
  fields.flatMap fun (name, value) => (value.map fun v => (name, v)).toList

theorem name_mem_of_mem_written {fields : List (String × Option Json)} {member : String × Json}
    (h : member ∈ written fields) : member.1 ∈ fields.map Prod.fst := by
  obtain ⟨⟨name, value⟩, hfield, hmember⟩ := List.mem_flatMap.1 h
  obtain ⟨v, _, rfl⟩ := Option.map_eq_some_iff.1 (Option.mem_toList.1 hmember)
  exact List.mem_map_of_mem hfield

/-- A field with a name of its own has its member to itself. -/
theorem filter_written {fields : List (String × Option Json)}
    (hnames : (fields.map Prod.fst).Nodup) {name : String} {value : Option Json}
    (h : (name, value) ∈ fields) :
    (written fields).filter (·.1 == name) = (value.map fun v => (name, v)).toList := by
  induction fields with
  | nil => cases h
  | cons field fields ih =>
    rw [List.map_cons, List.nodup_cons] at hnames
    rw [written, List.flatMap_cons, List.filter_append]
    rcases List.mem_cons.1 h with rfl | h
    · have hrest : (written fields).filter (·.1 == name) = [] := by
        refine List.filter_eq_nil_iff.2 fun member hmember heq => ?_
        rw [← eq_of_beq heq] at hnames
        exact hnames.1 (name_mem_of_mem_written hmember)
      rw [← written, hrest]
      cases value <;> simp
    · have hne : field.1 ≠ name := by
        rintro rfl
        exact hnames.1 (List.mem_map.2 ⟨_, h, rfl⟩)
      rw [← written, ih hnames.2 h]
      cases hvalue : field.2 <;> simp [hvalue, hne]

/-- Fields with names of their own are found by name, whatever the order of the members. -/
theorem recordFields?_of_perm {fields : List (String × Option Json)} {names : List String}
    (hnames : fields.map Prod.fst = names) (hnodup : names.Nodup) {members : List (String × Json)}
    (h : members.Perm (written fields)) :
    recordFields? names (.object members) = some (fields.map Prod.snd) := by
  subst hnames
  refine mapM_map_eq_some fun (name, value) hfield => ?_
  have hnamed : (members.filter (·.1 == name)).Perm (value.map fun v => (name, v)).toList := by
    rw [← filter_written hnodup hfield]
    exact h.filter _
  cases value with
  | none => simp [List.perm_nil.1 hnamed]
  | some v => simp [List.perm_singleton.1 hnamed]

end Json

theorem Json.asNat?_nat (n : Nat) : (Json.nat n).asNat? = some n := by
  have hdigits : (toString n).toList = Nat.toDigits 10 n := by
    rw [Nat.toString_eq_repr, Nat.toList_repr]
  have hall : (Nat.toDigits 10 n).all Char.isDigit = true := by
    rw [List.all_eq_true]
    exact fun c hc => Nat.isDigit_of_mem_toDigits (by decide) (by decide) hc
  have hne : (Nat.toDigits 10 n).isEmpty = false := by
    rw [List.isEmpty_eq_false_iff]
    exact Nat.toDigits_ne_nil
  simp only [nat, asNat?, hdigits, hall, hne, Bool.not_false, Bool.and_self, if_true,
    Nat.ofDigitChars_ten_toDigits]

def Method.ofJson? (document : Json) : Option Method := document.asString?.bind ofName?

theorem Method.ofJson?_name (m : Method) : ofJson? (.string m.name) = some m := m.ofName?_name

def RouteType.ofJson? (document : Json) : Option RouteType :=
  document.asString?.bind fun s => all.find? (·.name == s)

theorem RouteType.ofJson?_name (t : RouteType) : ofJson? (.string t.name) = some t := by
  cases t <;> decide

def HandlerSource.ofJson? (document : Json) : Option HandlerSource :=
  document.asString?.bind fun s => all.find? (·.name == s)

theorem HandlerSource.ofJson?_name (s : HandlerSource) : ofJson? (.string s.name) = some s := by
  cases s <;> decide

namespace DynamicSegment

def ofJson? (document : Json) : Option DynamicSegment := do
  match ← Json.recordFields? ["name", "isCatchAll", "isOptional"] document with
  | [some name, some isCatchAll, some isOptional] =>
    return ⟨← name.asString?, ← isCatchAll.asBool?, ← isOptional.asBool?⟩
  | _ => none

theorem ofJson?_toJson (d : DynamicSegment) : ofJson? d.toJson = some d := by
  let namedFields : List (String × Option Json) := [("name", some (.string d.name)),
    ("isCatchAll", some (.bool d.isCatchAll)), ("isOptional", some (.bool d.isOptional))]
  have hnames : namedFields.map Prod.fst = ["name", "isCatchAll", "isOptional"] := rfl
  have hfields := Json.recordFields?_of_perm hnames (by decide) (List.Perm.refl _)
  have hobject : d.toJson = .object (Json.written namedFields) := rfl
  rw [ofJson?, hobject, hfields]
  rfl

end DynamicSegment

namespace StringMap

def ofJson? (document : Json) : Option StringMap := do
  (← document.asObject?).mapM fun (key, value) => do return (key, ← value.asString?)

theorem ofJson?_toJson (m : StringMap) : ofJson? m.toJson = some m := by
  change (List.map _ m).mapM _ = some m
  apply mapM_map_eq_self
  intro member
  rfl

end StringMap

namespace Route

def readParams? (document : Json) : Option (List DynamicSegment) :=
  document.asArray?.bind fun items => items.mapM DynamicSegment.ofJson?

theorem readParams?_map (ds : List DynamicSegment) :
    readParams? (.array (ds.map DynamicSegment.toJson)) = some ds :=
  mapM_map_eq_self DynamicSegment.ofJson?_toJson ds

def optional? {α : Type} (read? : Json → Option α) : Option Json → Option (Option α) :=
  decodeField? none fun value => (read? value).map some

theorem optional?_map {α : Type} {read? : Json → Option α} {write : α → Json}
    (h : ∀ a, read? (write a) = some a) (value : Option α) :
    optional? read? (value.map write) = some value := by
  cases value with
  | none => rfl
  | some a => simp [optional?, decodeField?, h]

/-- The fields of a route in the order in which they are written, with the values of those that are
not left out. -/
def namedFields (r : Route) : List (String × Option Json) :=
  [("name", some (.string r.name)), ("path", some (.string r.path)),
    ("method", some (.string r.method.name)), ("filePath", some (.string r.filePath)),
    ("type", some (.string r.type.name)), ("line", some (.nat r.line)),
    ("headers", r.headers.map StringMap.toJson), ("query", r.query.map StringMap.toJson),
    ("body", r.body),
    ("params", if r.params.isEmpty then none else some (.array (r.params.map DynamicSegment.toJson))),
    ("middleware", if r.middleware then some (.bool true) else none),
    ("collectionSlug", r.collectionSlug.map .string),
    ("source", r.source.map fun s => .string s.name)]

def fieldNames : List String :=
  ["name", "path", "method", "filePath", "type", "line", "headers", "query", "body", "params",
    "middleware", "collectionSlug", "source"]

theorem optionalField_eq {α : Type} (name : String) (write : α → Json) (value : Option α) :
    optionalField name write value = ((value.map write).map fun v => (name, v)).toList := by
  cases value <;> rfl

theorem fields_eq_written (r : Route) : r.fields = Json.written r.namedFields := by
  rw [fields, namedFields, Json.written]
  simp only [optionalField_eq, List.flatMap_cons, List.flatMap_nil]
  cases r.params.isEmpty <;> cases r.middleware <;> simp

def ofJson? (document : Json) : Option Route := do
  match ← Json.recordFields? fieldNames document with
  | [some name, some path, some method, some filePath, some type, some line, headers, query, body,
      params, middleware, collectionSlug, source] =>
    return {
      name := ← name.asString?
      path := ← path.asString?
      method := ← Method.ofJson? method
      filePath := ← filePath.asString?
      type := ← RouteType.ofJson? type
      line := ← line.asNat?
      headers := ← optional? StringMap.ofJson? headers
      query := ← optional? StringMap.ofJson? query
      body := body
      params := ← decodeField? [] readParams? params
      middleware := ← decodeField? false Json.asBool? middleware
      collectionSlug := ← optional? Json.asString? collectionSlug
      source := ← optional? HandlerSource.ofJson? source }
  | _ => none

theorem ofJson?_of_perm {r : Route} {members : List (String × Json)} (h : members.Perm r.fields) :
    ofJson? (.object members) = some r := by
  have hnames : r.namedFields.map Prod.fst = fieldNames := rfl
  rw [fields_eq_written] at h
  have hfields := Json.recordFields?_of_perm hnames (by decide) h
  have hheaders := optional?_map StringMap.ofJson?_toJson r.headers
  have hquery := optional?_map StringMap.ofJson?_toJson r.query
  have hparams : decodeField? [] readParams?
      (if r.params.isEmpty then none else some (.array (r.params.map DynamicSegment.toJson))) =
        some r.params := by
    cases hempty : r.params with
    | nil => rfl
    | cons d ds => exact readParams?_map (d :: ds)
  have hmiddleware : decodeField? false Json.asBool?
      (if r.middleware then some (.bool true) else none) = some r.middleware := by
    cases r.middleware <;> rfl
  have hslug : optional? Json.asString? (r.collectionSlug.map .string) = some r.collectionSlug := by
    cases r.collectionSlug <;> rfl
  have hsource := optional?_map HandlerSource.ofJson?_name r.source
  simp only [namedFields, List.map_cons, List.map_nil] at hfields
  rw [ofJson?, hfields]
  dsimp only [Option.bind_eq_bind, Option.bind_some, Json.asString?]
  rw [Method.ofJson?_name, RouteType.ofJson?_name, Json.asNat?_nat, hheaders, hquery, hparams,
    hmiddleware, hslug, hsource]
  rfl

theorem ofJson?_toJson (r : Route) : ofJson? r.toJson = some r := ofJson?_of_perm (List.Perm.refl _)

theorem eq_of_fields_perm {r s : Route} (h : r.fields.Perm s.fields) : r = s :=
  Option.some.inj ((ofJson?_toJson r).symm.trans (ofJson?_of_perm h))

theorem toJson_injective : Function.Injective toJson := by
  intro r s h
  have hread := congrArg ofJson? h
  rw [ofJson?_toJson, ofJson?_toJson] at hread
  exact Option.some.inj hread

/-- A route is read back from its object, whatever the order of its fields, so different routes have
different fields. Two routes differ also when one has no body and the other the body `null`, and when
one has no headers and the other no header among them. -/
theorem written_routes_read_back :
    (∀ r : Route, ofJson? r.toJson = some r) ∧
    (∀ (r : Route) (members : List (String × Json)), members.Perm r.fields →
      ofJson? (.object members) = some r) ∧
    (∀ r s : Route, r.fields.Perm s.fields → r = s) ∧
    ∀ r : Route,
      { r with body := some .null }.toJson ≠ { r with body := none }.toJson ∧
      { r with headers := some [] }.toJson ≠ { r with headers := none }.toJson := by
  refine ⟨ofJson?_toJson, fun r members h => ofJson?_of_perm h, fun r s h => eq_of_fields_perm h,
    fun r => ⟨fun heq => ?_, fun heq => ?_⟩⟩
  · have hbody := congrArg body (toJson_injective heq)
    cases hbody
  · have hheaders := congrArg headers (toJson_injective heq)
    cases hheaders

def nullBody : Route where
  name := "GET /api"
  path := "/api"
  method := .get
  filePath := "pages/api/index.ts"
  type := .fileRouterPages
  line := 1
  headers := some []
  query := none
  body := some .null
  params := []
  middleware := false
  collectionSlug := none
  source := none

theorem null_body_read_back :
    nullBody.fields.reverse.Perm nullBody.fields ∧
      ofJson? (.object nullBody.fields.reverse) = some nullBody := by
  have hperm : nullBody.fields.reverse.Perm nullBody.fields := List.reverse_perm _
  obtain ⟨_, hread, _, _⟩ := written_routes_read_back
  exact ⟨hperm, hread nullBody _ hperm⟩

end Route

end RouteAtlas
