import Runbook.Flow.Compile
import Runbook.Proofs.Data.Fields
import Runbook.Proofs.Json.Whole

/-!
# Two spellings of one document

Each key of a document that has a meaning may be written in two ways.  Which of them is taken must
not matter, anywhere in a document, and the whole of the argument is that normalising forgets it:
two documents that differ in spellings only are one document once their keys are normalised.  That
a mapping does not hold both spellings of a key is needed, for of the two values one is dropped, and
which one depends on the order of the keys as they are written.

## Main definitions

* `Keyword.SameKey`: the same key, possibly spelled in two ways
* `Keyword.Respelled`: documents that differ in the spelling of keys only
* `Keyword.SpelledOnce`: no mapping holds a key in two spellings
* `Outline.reread`: the outline of a written step that is normalised anew at every level

## Main statements

* `Keyword.normalize_normalize`: a normalised document is not changed by normalising it
* `Outline.reread_eq_ofValue`: nor is what is written inside it, at any depth
* `Keyword.normalize_eq_of_respelled`: normalising forgets how the keys were spelled
* `Flow.ofValue_respelled`: so the two spellings of a document compile to the same

## Design notes

Renaming keys changes their order, so the fields of the second document are only matched with those
of the first after they have been put in another order.
-/

namespace Runbook

namespace Keyword

/-! ## Keys -/

/-- The same key: the two are equal, or one of them is the Chinese spelling of the other. -/
def SameKey (a b : String) : Prop := a = b ∨ (a, b) ∈ synonyms ∨ (b, a) ∈ synonyms

instance (a b : String) : Decidable (SameKey a b) := inferInstanceAs (Decidable (_ ∨ _ ∨ _))

theorem normalizeKey_of_mem : ∀ pair ∈ synonyms, normalizeKey pair.1 = pair.2 := by
  decide +kernel

/-- The English spellings are left alone. -/
theorem normalizeKey_english : ∀ pair ∈ synonyms, normalizeKey pair.2 = pair.2 := by
  decide +kernel

/-- No two Chinese spellings stand for the same key. -/
theorem eq_of_mem_of_mem : ∀ pair ∈ synonyms, ∀ other ∈ synonyms, pair.2 = other.2 →
    pair = other := by
  decide +kernel

/-- A key is a Chinese spelling, or it is left alone. -/
theorem mem_synonyms_or_normalizeKey_eq (key : String) :
    (key, normalizeKey key) ∈ synonyms ∨ normalizeKey key = key := by
  unfold normalizeKey
  cases found : synonyms.lookup key with
  | none => exact .inr rfl
  | some english =>
    obtain ⟨before, after, same, -⟩ := List.lookup_eq_some_iff.1 found
    refine .inl ?_
    rw [same, Option.getD_some]
    exact List.mem_append_right before List.mem_cons_self

theorem normalizeKey_normalizeKey (key : String) :
    normalizeKey (normalizeKey key) = normalizeKey key := by
  rcases mem_synonyms_or_normalizeKey_eq key with chinese | same
  · exact normalizeKey_english _ chinese
  · rw [same, same]

/-- A key is left alone exactly if it is no Chinese spelling. -/
theorem normalizeKey_eq_self_iff {key : String} :
    normalizeKey key = key ↔ key ∉ synonyms.map Prod.fst := by
  have apart : ∀ pair ∈ synonyms, pair.2 ∉ synonyms.map Prod.fst := by decide +kernel
  constructor
  · intro same member
    obtain ⟨pair, listed, rfl⟩ := List.mem_map.1 member
    rw [normalizeKey_of_mem pair listed] at same
    exact apart pair listed (same ▸ member)
  · intro absent
    refine (mem_synonyms_or_normalizeKey_eq key).resolve_left fun chinese => ?_
    exact absent (List.mem_map_of_mem chinese)

/-- **Two keys are the same key exactly if they are normalised to the same.** -/
theorem normalizeKey_eq_iff {a b : String} : normalizeKey a = normalizeKey b ↔ SameKey a b := by
  constructor
  · intro same
    rcases mem_synonyms_or_normalizeKey_eq a with chinese | english <;>
      rcases mem_synonyms_or_normalizeKey_eq b with chinese' | english'
    · exact .inl (Prod.mk.inj (eq_of_mem_of_mem _ chinese _ chinese' same)).1
    · rw [same, english'] at chinese
      exact .inr (.inl chinese)
    · rw [← same, english] at chinese'
      exact .inr (.inr chinese')
    · exact .inl (english.symm.trans (same.trans english'))
  · rintro (rfl | listed | listed)
    · rfl
    · exact (normalizeKey_of_mem _ listed).trans (normalizeKey_english _ listed).symm
    · exact (normalizeKey_english _ listed).trans (normalizeKey_of_mem _ listed).symm

/-! ## Normalising twice -/

/-- A field with its key in the English spelling. -/
def normalizeField (field : String × Json) : String × Json :=
  (normalizeKey field.1, normalize field.2)

theorem normalizeItems_eq_map (items : List Json) : normalizeItems items = items.map normalize := by
  induction items with
  | nil => rw [normalizeItems, List.map_nil]
  | cons item rest ih => rw [normalizeItems, ih, List.map_cons]

theorem normalizeFields_eq_map (fields : List (String × Json)) :
    normalizeFields fields = fields.map normalizeField := by
  induction fields with
  | nil => rw [normalizeFields, List.map_nil]
  | cons field rest ih =>
    obtain ⟨key, value⟩ := field
    rw [normalizeFields, ih, List.map_cons, normalizeField]

theorem normalize_arr (items : List Json) :
    normalize (.arr items) = .arr (items.map normalize) := by
  rw [normalize, normalizeItems_eq_map]

theorem normalize_obj (fields : List (String × Json)) :
    normalize (.obj fields) = .obj (Fields.ofList (fields.map normalizeField)) := by
  rw [normalize, normalizeFields_eq_map]

/-- A mapping is left alone if its keys are in order and each of its fields is. -/
theorem normalize_obj_eq_self {fields : Json.Object} (ordered : Fields.Ordered fields)
    (each : ∀ field ∈ fields, normalizeField field = field) :
    normalize (.obj fields) = .obj fields := by
  have same : fields.map normalizeField = fields :=
    (List.map_congr_left each).trans (List.map_id fields)
  rw [normalize_obj, same, Fields.ofList_of_ordered ordered]

mutual

/-- **Normalising twice is the same as normalising once.** -/
theorem normalize_normalize : ∀ value : Json, normalize (normalize value) = normalize value
  | .null | .bool _ | .int _ | .double _ | .str _ => by simp only [normalize]
  | .arr items => by
    rw [normalize_arr, normalize_arr, List.map_map]
    exact congrArg Json.arr (List.map_congr_left (normalize_normalize_item items))
  | .obj fields => by
    rw [normalize_obj]
    refine normalize_obj_eq_self (Fields.ordered_ofList _) fun field member => ?_
    obtain ⟨written, inside, rfl⟩ := List.mem_map.1 (Fields.mem_of_mem_ofList member)
    exact Prod.ext (normalizeKey_normalizeKey _) (normalize_normalize_field fields written inside)

theorem normalize_normalize_item : ∀ items : List Json, ∀ item ∈ items,
    normalize (normalize item) = normalize item
  | first :: rest, item, member =>
    match List.mem_cons.1 member with
    | .inl here => here ▸ normalize_normalize first
    | .inr later => normalize_normalize_item rest item later

theorem normalize_normalize_field : ∀ fields : List (String × Json), ∀ field ∈ fields,
    normalize (normalize field.2) = normalize field.2
  | (_, value) :: rest, field, member =>
    match List.mem_cons.1 member with
    | .inl here => here ▸ normalize_normalize value
    | .inr later => normalize_normalize_field rest field later

end

/-- What stands in a normalised list is normalised. -/
theorem normalize_of_mem {items : List Json} (normal : normalize (.arr items) = .arr items)
    {item : Json} (member : item ∈ items) : normalize item = item := by
  rw [normalize_arr] at normal
  have same : items.map normalize = items.map id := (Json.arr.inj normal).trans (List.map_id _).symm
  exact List.map_inj_left.1 same item member

/-- What a normalised mapping holds is normalised. -/
theorem normalize_of_get? {fields : Json.Object} (normal : normalize (.obj fields) = .obj fields)
    {key : String} {value : Json} (found : Fields.get? fields key = some value) :
    normalize value = value := by
  rw [normalize_obj] at normal
  rw [← Json.obj.inj normal] at found
  obtain ⟨written, -, same⟩ := List.mem_map.1 (Fields.mem_of_mem_ofList (Fields.mem_of_get? found))
  rw [← (Prod.mk.inj same).2]
  exact normalize_normalize written.2

end Keyword

/-! ## Normalising at every level -/

namespace Json

theorem depth_le_depthItems {items : List Json} {item : Json} (member : item ∈ items) :
    depth item ≤ depthItems items := by
  induction items with
  | nil => cases member
  | cons first rest ih =>
    rw [depthItems]
    rcases List.mem_cons.1 member with rfl | later
    · exact Nat.le_max_left _ _
    · exact Nat.le_trans (ih later) (Nat.le_max_right _ _)

theorem depth_le_depthFields {fields : Object} {field : String × Json} (member : field ∈ fields) :
    depth field.2 ≤ depthFields fields := by
  induction fields with
  | nil => cases member
  | cons first rest ih =>
    obtain ⟨key, value⟩ := first
    rw [depthFields]
    rcases List.mem_cons.1 member with rfl | later
    · exact Nat.le_max_left _ _
    · exact Nat.le_trans (ih later) (Nat.le_max_right _ _)

theorem depthItems_le {items : List Json} {n : Nat} (each : ∀ item ∈ items, depth item ≤ n) :
    depthItems items ≤ n := by
  induction items with
  | nil => exact Nat.zero_le n
  | cons first rest ih =>
    rw [List.forall_mem_cons] at each
    exact Nat.max_le.2 ⟨each.1, ih each.2⟩

theorem depthFields_le {fields : Object} {n : Nat} (each : ∀ field ∈ fields, depth field.2 ≤ n) :
    depthFields fields ≤ n := by
  induction fields with
  | nil => exact Nat.zero_le n
  | cons first rest ih =>
    rw [List.forall_mem_cons] at each
    exact Nat.max_le.2 ⟨each.1, ih each.2⟩

end Json

namespace Keyword

mutual

/-- Normalising never makes a document deeper. -/
theorem depth_normalize_le : ∀ value : Json, (normalize value).depth ≤ value.depth
  | .null | .bool _ | .int _ | .double _ | .str _ => by simp only [normalize, Nat.le_refl]
  | .arr items => by
    rw [normalize_arr, Json.depth, Json.depth]
    refine Nat.succ_le_succ (Json.depthItems_le fun item member => ?_)
    obtain ⟨written, inside, rfl⟩ := List.mem_map.1 member
    exact Nat.le_trans (depth_normalize_item_le items written inside)
      (Json.depth_le_depthItems inside)
  | .obj fields => by
    rw [normalize_obj, Json.depth, Json.depth]
    refine Nat.succ_le_succ (Json.depthFields_le fun field member => ?_)
    obtain ⟨written, inside, rfl⟩ := List.mem_map.1 (Fields.mem_of_mem_ofList member)
    exact Nat.le_trans (depth_normalize_field_le fields written inside)
      (Json.depth_le_depthFields inside)

theorem depth_normalize_item_le : ∀ items : List Json, ∀ item ∈ items,
    (normalize item).depth ≤ item.depth
  | first :: rest, item, member =>
    match List.mem_cons.1 member with
    | .inl here => here ▸ depth_normalize_le first
    | .inr later => depth_normalize_item_le rest item later

theorem depth_normalize_field_le : ∀ fields : List (String × Json), ∀ field ∈ fields,
    (normalize field.2).depth ≤ field.2.depth
  | (_, value) :: rest, field, member =>
    match List.mem_cons.1 member with
    | .inl here => here ▸ depth_normalize_le value
    | .inr later => depth_normalize_field_le rest field later

end

end Keyword

namespace Outline

open Keyword

/-- What is under a key is less deep than the mapping. -/
theorem depth_lt_of_get? {body : Json.Object} {key : String} {value : Json}
    (found : Fields.get? body key = some value) : value.depth < (Json.obj body).depth := by
  rw [Json.depth]
  exact Nat.lt_succ_of_le (Json.depth_le_depthFields (Fields.mem_of_get? found))

/-- Each written child of a step is an item of a list that its body holds. -/
theorem exists_list_of_mem_childItems {body : Json.Object} {child : Json}
    (member : child ∈ childItems body) :
    ∃ key items, Fields.get? body key = some (.arr items) ∧ child ∈ items := by
  have under {key : String} {items : List Json} (listed : itemsUnder? body key = some items) :
      Fields.get? body key = some (.arr items) := by
    unfold itemsUnder? at listed
    split at listed
    · rename_i found
      rw [found, Option.some.inj listed]
    · cases listed
  unfold childItems at member
  split at member
  · rename_i items listed
    exact ⟨_, items, under listed, member⟩
  · cases listed : itemsUnder? body "children" with
    | none =>
      rw [listed] at member
      cases member
    | some items =>
      rw [listed] at member
      exact ⟨_, items, under listed, member⟩

/-- The body of a written step is the step itself, or stands in it. -/
theorem depth_heading_le (raw : Json) :
    (heading raw).2 = [] ∨ (Json.obj (heading raw).2).depth ≤ raw.depth := by
  unfold heading
  split
  · exact .inl rfl
  · rename_i fields
    split
    · exact .inr (Nat.le_refl _)
    · split
      · exact .inl rfl
      · rename_i key body absent
        have found : Fields.get? [(key, Json.obj body)] key = some (.obj body) := if_pos rfl
        exact .inr (Nat.le_of_lt (depth_lt_of_get? found))
      · exact .inr (Nat.le_refl _)
  · exact .inl rfl

/-- A written child is less deep than the step. -/
theorem depth_child_lt {raw child : Json} (member : child ∈ childItems (heading raw).2) :
    child.depth < raw.depth := by
  obtain ⟨key, items, found, inside⟩ := exists_list_of_mem_childItems member
  have list : child.depth < (Json.arr items).depth := by
    rw [Json.depth]
    exact Nat.lt_succ_of_le (Json.depth_le_depthItems inside)
  rcases depth_heading_le raw with empty | within
  · rw [empty] at found
    cases found
  · exact Nat.lt_of_lt_of_le (Nat.lt_trans list (depth_lt_of_get? found)) within

/-- The outline of a written step that is normalised anew, and so are its children, at every
level. -/
def reread (raw : Json) : Outline :=
  .mk (heading (Keyword.normalize raw)).1 (heading (Keyword.normalize raw)).2
    ((childItems (heading (Keyword.normalize raw)).2).attach.map fun child => reread child.1)
termination_by raw.depth
decreasing_by exact Nat.lt_of_lt_of_le (depth_child_lt child.2) (depth_normalize_le raw)

/-- The body of a normalised step is normalised. -/
theorem normalize_heading {raw : Json} (normal : Keyword.normalize raw = raw) :
    Keyword.normalize (.obj (heading raw).2) = .obj (heading raw).2 := by
  have empty : Keyword.normalize (.obj []) = .obj [] := by rw [normalize_obj]; rfl
  unfold heading
  split
  · exact empty
  · split
    · exact normal
    · split
      · exact empty
      · rename_i key body absent
        have found : Fields.get? [(key, Json.obj body)] key = some (.obj body) := if_pos rfl
        exact normalize_of_get? normal found
      · exact normal
  · exact empty

/-- So is each of its children. -/
theorem normalize_child {raw child : Json} (normal : Keyword.normalize raw = raw)
    (member : child ∈ childItems (heading raw).2) : Keyword.normalize child = child := by
  obtain ⟨key, items, found, inside⟩ := exists_list_of_mem_childItems member
  exact normalize_of_mem (normalize_of_get? (normalize_heading normal) found) inside

/-- **Normalising anew does not change what is normalised**, at any depth. -/
theorem reread_eq_ofValue {raw : Json} (normal : Keyword.normalize raw = raw) :
    reread raw = ofValue raw := by
  induction raw using reread.induct with
  | case1 raw ih =>
    rw [reread, ofValue_eq, ofValues, normal]
    rw [normal] at ih
    refine congrArg _ ?_
    rw [← List.attach_map_val (l := childItems (heading raw).2)]
    exact List.map_congr_left fun child _ => ih child (normalize_child normal child.2)

end Outline

namespace Keyword

/-! ## Spellings -/

mutual

/-- The two documents differ in the spelling of keys only. -/
def Respelled : Json → Json → Prop
  | .arr items, .arr others => RespelledItems items others
  | .obj fields, .obj others =>
    ∃ matched : List (String × Json), matched.Perm others ∧ RespelledFields fields matched
  | value, other => value = other

/-- So do the items of two lists, one by one. -/
def RespelledItems : List Json → List Json → Prop
  | [], [] => True
  | item :: rest, other :: others => Respelled item other ∧ RespelledItems rest others
  | _, _ => False

/-- So do the fields of two mappings, one by one. -/
def RespelledFields : List (String × Json) → List (String × Json) → Prop
  | [], [] => True
  | (key, value) :: rest, (key', value') :: others =>
    SameKey key key' ∧ Respelled value value' ∧ RespelledFields rest others
  | _, _ => False

end

mutual

/-- No mapping in the document holds a key twice, in one spelling or in two. -/
def SpelledOnce : Json → Prop
  | .arr items => SpelledOnceItems items
  | .obj fields =>
    (Fields.keys fields).Pairwise (fun a b => ¬ SameKey a b) ∧ SpelledOnceFields fields
  | _ => True

/-- Nor does any in the items of a list. -/
def SpelledOnceItems : List Json → Prop
  | [] => True
  | item :: rest => SpelledOnce item ∧ SpelledOnceItems rest

/-- Nor does any in the fields of a mapping. -/
def SpelledOnceFields : List (String × Json) → Prop
  | [] => True
  | (_, value) :: rest => SpelledOnce value ∧ SpelledOnceFields rest

end

mutual

/-- **Normalising forgets how the keys were spelled.** -/
theorem normalize_eq_of_respelled : ∀ {value other : Json}, Respelled value other →
    SpelledOnce value → normalize value = normalize other
  | .null, _, same, _ | .bool _, _, same, _ | .int _, _, same, _ | .double _, _, same, _
  | .str _, _, same, _ => by
    simp only [Respelled] at same
    rw [same]
  | .arr items, other, same, once => by
    cases other with
    | arr others =>
      rw [Respelled] at same
      rw [SpelledOnce] at once
      rw [normalize_arr, normalize_arr, map_normalize_of_respelled same once]
    | _ => simp [Respelled] at same
  | .obj fields, other, same, once => by
    cases other with
    | obj others =>
      rw [Respelled] at same
      obtain ⟨matched, perm, same⟩ := same
      rw [SpelledOnce] at once
      have fieldwise := map_normalizeField_of_respelled same once.2
      -- keys that are not the same key stay different when they are normalised
      have distinct : (Fields.keys (fields.map normalizeField)).Nodup := by
        have apart := once.1
        rw [Fields.keys, List.pairwise_map] at apart
        rw [Fields.keys, List.map_map, List.Nodup, List.pairwise_map]
        exact apart.imp fun different same => different (normalizeKey_eq_iff.1 same)
      rw [fieldwise] at distinct
      rw [normalize_obj, normalize_obj, fieldwise, Fields.ofList_perm (perm.map _) distinct]
    | _ => simp [Respelled] at same

theorem map_normalize_of_respelled : ∀ {items others : List Json}, RespelledItems items others →
    SpelledOnceItems items → items.map normalize = others.map normalize
  | [], [], _, _ => rfl
  | item :: rest, other :: others, same, once => by
    rw [RespelledItems] at same
    rw [SpelledOnceItems] at once
    rw [List.map_cons, List.map_cons, normalize_eq_of_respelled same.1 once.1,
      map_normalize_of_respelled same.2 once.2]

theorem map_normalizeField_of_respelled : ∀ {fields others : List (String × Json)},
    RespelledFields fields others → SpelledOnceFields fields →
      fields.map normalizeField = others.map normalizeField
  | [], [], _, _ => rfl
  | (key, value) :: rest, (key', value') :: others, same, once => by
    rw [RespelledFields] at same
    rw [SpelledOnceFields] at once
    rw [List.map_cons, List.map_cons, normalizeField, normalizeField,
      normalizeKey_eq_iff.2 same.1, normalize_eq_of_respelled same.2.1 once.1,
      map_normalizeField_of_respelled same.2.2 once.2]

end

end Keyword

namespace Flow

open Keyword

/-- **The two spellings of a document compile to the same**, or are refused for the same reason, and
so do texts that are read as such documents.  For a normalised document stays as it is when it is
normalised, and its steps do when they are normalised again at every level. -/
theorem ofValue_respelled {document other : Json} (respelled : Respelled document other)
    (once : SpelledOnce document) :
    ofValue document = ofValue other ∧
    (∀ text text', Yaml.parse? text = some document → Yaml.parse? text' = some other →
      ofText text = ofText text') ∧
    (∀ value, Keyword.normalize (Keyword.normalize value) = Keyword.normalize value) ∧
    ∀ value root items, Keyword.normalize value = .obj root →
      Fields.get? root "steps" = some (.arr items) →
        items.map Outline.reread = Outline.ofValues items := by
  have same : ofValue document = ofValue other := by
    rw [ofValue, normalize_eq_of_respelled respelled once]
    rfl
  refine ⟨same, fun text text' readable readable' => ?_, normalize_normalize, ?_⟩
  · rw [ofText, ofText, readable, readable']
    exact same
  · intro value root items mapping listed
    have normal : Keyword.normalize (.obj root) = .obj root := mapping ▸ normalize_normalize value
    refine List.map_congr_left fun item member => ?_
    exact Outline.reread_eq_ofValue (normalize_of_mem (normalize_of_get? normal listed) member)

/-- A definition in English, with a loop whose settings are handed on. -/
def englishText : String :=
  "\x7bname: r, steps: [a, \x7bl: \x7biterate: xs, config: \x7bretry: 2\x7d, children: " ++
    "[\x7bname: b, if: x, next: [\x7bif: y, go: c\x7d]\x7d]\x7d\x7d, c]\x7d"

/-- The document of `englishText`. -/
def english : Json :=
  .obj [("name", .str "r"), ("steps", .arr [.str "a",
    .obj [("l", .obj [
      ("children", .arr [.obj [("if", .str "x"), ("name", .str "b"),
        ("next", .arr [.obj [("go", .str "c"), ("if", .str "y")]])]]),
      ("config", .obj [("retry", .int 2)]),
      ("iterate", .str "xs")])],
    .str "c"])]

/-- The same definition in Chinese. -/
def chineseText : String :=
  "\x7b名称: r, 步骤: [a, \x7bl: \x7b遍历: xs, 配置: \x7b重试: 2\x7d, 子步骤: " ++
    "[\x7b名称: b, 如果: x, 下一步: [\x7b如果: y, 去: c\x7d]\x7d]\x7d\x7d, c]\x7d"

/-- The document of `chineseText`.  Its keys stand in another order. -/
def chinese : Json :=
  .obj [("名称", .str "r"), ("步骤", .arr [.str "a",
    .obj [("l", .obj [
      ("子步骤", .arr [.obj [
        ("下一步", .arr [.obj [("去", .str "c"), ("如果", .str "y")]]),
        ("名称", .str "b"), ("如果", .str "x")]]),
      ("遍历", .str "xs"),
      ("配置", .obj [("重试", .int 2)])])],
    .str "c"])]

/-- The flow of both. -/
def spelledFlow : Flow where
  name := "r"
  steps := .ofList [("a", { name := "a", transitions := [.plain "l"] }),
    ("l", { name := "l", transitions := [.plain "b", .plain "c"]
            config := { kind := .loop, iterate := some "xs"
                        extra := [("config", .obj [("retry", .int 2)])] } }),
    ("b", { name := "b", transitions := [.guarded "c" "y"], config := { kind := .branch } }),
    ("c", { name := "c" })]
  entry := "a"

theorem respelled_chinese : Respelled chinese english := by
  have entry : Respelled (.obj [("去", .str "c"), ("如果", .str "y")])
      (.obj [("go", .str "c"), ("if", .str "y")]) :=
    ⟨_, .refl _, by decide, rfl, by decide, rfl, trivial⟩
  have child : Respelled
      (.obj [("下一步", .arr [.obj [("去", .str "c"), ("如果", .str "y")]]), ("名称", .str "b"),
        ("如果", .str "x")])
      (.obj [("if", .str "x"), ("name", .str "b"),
        ("next", .arr [.obj [("go", .str "c"), ("if", .str "y")]])]) :=
    ⟨_, List.reverse_perm _, by decide, ⟨entry, trivial⟩, by decide, rfl, by decide, rfl, trivial⟩
  have settings : Respelled (.obj [("重试", .int 2)]) (.obj [("retry", .int 2)]) :=
    ⟨_, .refl _, by decide, rfl, trivial⟩
  refine ⟨_, .refl _, by decide, rfl, by decide, ⟨rfl, ⟨_, .refl _, by decide, ?_, trivial⟩, rfl,
    trivial⟩, trivial⟩
  exact ⟨_, .cons _ (.swap _ _ _), by decide, ⟨child, trivial⟩, by decide, rfl, by decide,
    settings, trivial⟩

theorem spelledOnce_chinese : SpelledOnce chinese := by
  simp +decide [chinese, SpelledOnce, SpelledOnceItems, SpelledOnceFields]

theorem parse?_englishText : Yaml.parse? englishText = some english := by decide +kernel

theorem parse?_chineseText : Yaml.parse? chineseText = some chinese := by decide +kernel

/-- Both texts are definitions of the same flow, with the settings of the loop in English. -/
theorem ofValue_respelled_chinese :
    Respelled chinese english ∧ SpelledOnce chinese ∧ ofText englishText = .ok spelledFlow ∧
      ofText chineseText = .ok spelledFlow ∧ Yaml.parse? chineseText = some chinese := by
  have compiled : ofText englishText = .ok spelledFlow := by
    rw [ofText, parse?_englishText]
    decide +kernel
  have same := (ofValue_respelled respelled_chinese spelledOnce_chinese).2.1 _ _
    parse?_chineseText parse?_englishText
  exact ⟨respelled_chinese, spelledOnce_chinese, compiled, same.trans compiled,
    parse?_chineseText⟩

end Flow

end Runbook
