import ArchivalBag.Json.BagForm
import ArchivalBag.Proofs.Manifest
import ArchivalBag.Proofs.Metadata

/-!
# Bags read back from JSON

What is written is read back: a record has each of its fields once, metadata repeat no key, and the
entries of a manifest stand in the order of their paths, so that giving them one after the other changes
nothing. What is read is not always what was written, since fields may stand in any order among others
and keys and paths may be repeated, but then one writing settles it.

* `Json.fields?_ofFields`: the fields of a written record.
* `Version.ofJson?_toJson` and so on: each type is read back.
* `RoundTrips`: the law; `bagForms_roundTrip`: it holds of bags and their parts.
-/

namespace ArchivalBag

namespace Json

/-! ### Written objects -/

theorem members?_ofFields (fields : List (String × Json)) :
    (ofFields fields).members? = some fields := by
  unfold ofFields members?
  exact mapM_map_eq_some fun _ _ => rfl

theorem member?_of_mem {fields : List (String × Json)} (h : (fields.map Prod.fst).Nodup)
    {f : String × Json} (hf : f ∈ fields) : member? fields f.1 = some (some f.2) := by
  have hfilter : (fields.filter fun m => m.1 == f.1) = [f] := by
    induction fields with
    | nil => cases hf
    | cons m fields ih =>
      rw [List.map_cons, List.nodup_cons] at h
      obtain ⟨hm, h⟩ := h
      rw [List.filter_cons]
      rcases List.mem_cons.1 hf with rfl | hf
      · have hrest : (fields.filter fun m => m.1 == f.1) = [] := by
          rw [List.filter_eq_nil_iff]
          intro m hmem he
          exact hm (List.mem_map.2 ⟨m, hmem, beq_iff_eq.1 he⟩)
        rw [if_pos (beq_self_eq_true f.1), hrest]
      · have hne : ¬ (m.1 == f.1) = true := by
          intro he
          exact hm (List.mem_map.2 ⟨f, hf, (beq_iff_eq.1 he).symm⟩)
        rw [if_neg hne, ih h hf]
  rw [member?, hfilter]

/-- **The fields of a written record** with the given keys and values. -/
theorem fields?_ofFields (keys : List String) (values : List Json) (h : keys.Nodup)
    (hl : keys.length = values.length) :
    (ofFields (keys.zip values)).fields? keys = some (values.map some) := by
  have hkeys : (keys.zip values).map Prod.fst = keys := List.map_fst_zip (by omega)
  have hvalues : (keys.zip values).map Prod.snd = values := List.map_snd_zip (by omega)
  have hnodup : ((keys.zip values).map Prod.fst).Nodup := by
    rw [hkeys]
    exact h
  have hall : ∀ fs : List (String × Json), (∀ f ∈ fs, f ∈ keys.zip values) →
      (fs.map Prod.fst).mapM (member? (keys.zip values)) = some ((fs.map Prod.snd).map some) := by
    intro fs hfs
    induction fs with
    | nil => rfl
    | cons f fs ih =>
      have hf := member?_of_mem hnodup (hfs f List.mem_cons_self)
      have hrest := ih fun g hg => hfs g (List.mem_cons_of_mem f hg)
      rw [List.map_cons, List.mapM_cons, hf, hrest]
      rfl
  have hzip := hall (keys.zip values) fun _ hf => hf
  rw [hkeys, hvalues] at hzip
  show ((ofFields (keys.zip values)).members?.bind fun ms => keys.mapM (member? ms)) = _
  rw [members?_ofFields]
  exact hzip

end Json

/-! ### The parts of a bag -/

theorem Version.ofJson?_toJson (v : Version) : ofJson? v.toJson = some v := by
  have hfields : v.toJson.fields? ["major", "minor"] =
      some [some (.ofWord v.major), some (.ofWord v.minor)] :=
    Json.fields?_ofFields ["major", "minor"] [.ofWord v.major, .ofWord v.minor] (by decide) rfl
  rw [ofJson?, hfields]
  simp

theorem FetchLength.ofJson?_toJson (l : FetchLength) : ofJson? l.toJson = some l := by
  cases l with
  | known n =>
    show (Json.ofWord n).word?.map FetchLength.known = some (known n)
    rw [Json.word?_ofWord]
    rfl
  | unknown => rfl

/-- The URL is that of its text. -/
def FetchItem.KeepsUrl (i : FetchItem) : Prop :=
  Url.parse i.url.text = .ok i.url

theorem FetchItem.ofJson?_toJson {i : FetchItem} (h : i.KeepsUrl) : ofJson? i.toJson = some i := by
  have hfields : i.toJson.fields? ["url", "length", "path"] =
      some [some (.ofText i.url.text), some i.length.toJson, some (.ofText i.path)] :=
    Json.fields?_ofFields ["url", "length", "path"]
      [.ofText i.url.text, i.length.toJson, .ofText i.path] (by decide) rfl
  have hurl : (Url.parse i.url.text).toOption = some i.url := by
    rw [h]
    rfl
  rw [ofJson?, hfields]
  simp [hurl, FetchLength.ofJson?_toJson]

/-- Pairs of texts in JSON. -/
def Json.ofPairs (pairs : List (String × String)) : Json :=
  .array (pairs.map fun p => .array [.ofText p.1, .ofText p.2])

/-- Any pairs are read, whether keys are repeated or not. -/
theorem Metadata.ofJson?_ofPairs (pairs : List (String × String)) :
    ofJson? (.ofPairs pairs) = some (.ofList pairs) := by
  have hpairs : (pairs.map fun p => Json.array [.ofText p.1, .ofText p.2]).mapM pairOfJson? =
      some pairs := mapM_map_eq_some fun _ _ => rfl
  simp [ofJson?, Json.ofPairs, Json.items?, hpairs]

theorem Metadata.ofJson?_toJson (m : Metadata) : ofJson? m.toJson = some m := by
  have hread := ofJson?_ofPairs m.entries
  rwa [ofList_entries] at hread

theorem Manifest.ofJson?_toJson (m : Manifest) : ofJson? m.toJson = some m := by
  have hmembers : ∃ ms : List (String × Json), ms.mapM entryOfMember? = some m.entries ∧
      m.toJson = .ofFields (["algorithm", "entries"].zip [.ofText m.algorithm, .ofFields ms]) :=
    ⟨_, mapM_map_eq_some fun _ _ => rfl, rfl⟩
  obtain ⟨ms, hentries, hm⟩ := hmembers
  have hfields := Json.fields?_ofFields ["algorithm", "entries"]
    [.ofText m.algorithm, .ofFields ms] (by decide) rfl
  rw [← hm] at hfields
  rw [ofJson?, hfields]
  simp [Json.members?_ofFields, hentries, ofList_entries]

/-! ### Bags -/

/-- All URLs are those of their texts. -/
def Bag.KeepsUrls (b : Bag) : Prop :=
  ∀ i ∈ b.fetchItems, i.KeepsUrl

theorem Bag.ofJson?_toJson {b : Bag} (h : b.KeepsUrls) : ofJson? b.toJson = some b := by
  have hfields : b.toJson.fields? fieldNames =
      some [some (.ofText b.root.text), some b.version.toJson, some (.ofText b.encoding),
        some (.array (b.payloadManifests.map Manifest.toJson)),
        some (.array (b.tagManifests.map Manifest.toJson)), some b.metadata.toJson,
        some (.array (b.fetchItems.map FetchItem.toJson))] :=
    Json.fields?_ofFields fieldNames
      [.ofText b.root.text, b.version.toJson, .ofText b.encoding,
        .array (b.payloadManifests.map Manifest.toJson), .array (b.tagManifests.map Manifest.toJson),
        b.metadata.toJson, .array (b.fetchItems.map FetchItem.toJson)] (by decide) rfl
  have hmanifests : ∀ ms : List Manifest, (ms.map Manifest.toJson).mapM Manifest.ofJson? = some ms :=
    fun ms => mapM_map_eq_some fun m _ => Manifest.ofJson?_toJson m
  have hitems : (b.fetchItems.map FetchItem.toJson).mapM FetchItem.ofJson? = some b.fetchItems :=
    mapM_map_eq_some fun i hi => FetchItem.ofJson?_toJson (h i hi)
  rw [ofJson?, hfields]
  simp [Json.items?, hmanifests, hitems, Version.ofJson?_toJson, Metadata.ofJson?_toJson]

/-! ### The law -/

/-- **A form that values are kept in.** A value that is written is read back and written in the same way
again. Whatever JSON a value was read from, its written form says the same. -/
structure RoundTrips {α : Type} (keeps : α → Prop) (write : α → Json) (read : Json → Option α) :
    Prop where
  read_write : ∀ a, keeps a → read (write a) = some a
  write_read : ∀ a, keeps a → (read (write a)).map write = some (write a)
  settles : ∀ j a, read j = some a → keeps a → ((read j).map write).bind read = read j

/-- What is read back once is read back from then on. -/
theorem RoundTrips.of_read_write {α : Type} {keeps : α → Prop} {write : α → Json}
    {read : Json → Option α} (h : ∀ a, keeps a → read (write a) = some a) :
    RoundTrips keeps write read where
  read_write := h
  write_read a ha := by
    rw [h a ha]
    rfl
  settles j a hj ha := by
    rw [hj]
    exact h a ha

/-- **Bags and their parts are kept in JSON**, as far as their URLs are those of their texts. -/
theorem bagForms_roundTrip :
    RoundTrips (fun _ => True) Version.toJson Version.ofJson? ∧
      RoundTrips (fun _ => True) FetchLength.toJson FetchLength.ofJson? ∧
      RoundTrips FetchItem.KeepsUrl FetchItem.toJson FetchItem.ofJson? ∧
      RoundTrips (fun _ => True) Metadata.toJson Metadata.ofJson? ∧
      RoundTrips (fun _ => True) Manifest.toJson Manifest.ofJson? ∧
      RoundTrips Bag.KeepsUrls Bag.toJson Bag.ofJson? :=
  ⟨.of_read_write fun v _ => Version.ofJson?_toJson v,
    .of_read_write fun l _ => FetchLength.ofJson?_toJson l,
    .of_read_write fun _ h => FetchItem.ofJson?_toJson h,
    .of_read_write fun m _ => Metadata.ofJson?_toJson m,
    .of_read_write fun m _ => Manifest.ofJson?_toJson m,
    .of_read_write fun _ h => Bag.ofJson?_toJson h⟩

/-- A bag with its fields in another order and a field that no bag has. A key of the metadata and a path
of the manifest are repeated, and a length is the largest there is. -/
def shuffledBag : Json :=
  .ofFields [("fetch_items", .array [.ofFields [("path", .ofText "data/x y"),
      ("length", .ofFields [("known", .number "18446744073709551615".toList)]),
      ("url", .ofText "urn:isbn:12")]]),
    ("metadata", .array [.array [.ofText "a", .ofText "1"], .array [.ofText "b", .ofText "2"],
      .array [.ofText "a", .ofText "3"]]),
    ("payload_manifests", .array [.ofFields [("entries", .ofFields [("/b/x//y", .ofText "1"),
      ("/b/x/y", .ofText "2")]), ("algorithm", .ofText "md5")]]),
    ("tag_manifests", .array []), ("file_encoding", .ofText "UTF-8"), ("note", .null),
    ("version", .ofFields [("minor", .number ['9', '7']), ("major", .number ['0'])]),
    ("root_directory", .ofText "/b")]

/-- It is settled once it has been read. -/
theorem bagForms_roundTrip_shuffled :
    ∃ b, Bag.ofJson? shuffledBag = some b ∧ b.KeepsUrls ∧ b.totalFetchBytes = maxWord ∧
      b.metadata.entries = [("a", "3"), ("b", "2")] ∧
      b.payloadManifests.map Manifest.entries = [[(⟨"/b/x//y"⟩, "2")]] ∧
      ((Bag.ofJson? shuffledBag).map Bag.toJson).bind Bag.ofJson? = Bag.ofJson? shuffledBag := by
  obtain ⟨b, hb, hitems, hmetadata, hmanifests⟩ : ∃ b, Bag.ofJson? shuffledBag = some b ∧
      b.fetchItems = [⟨⟨"urn".toList, none, "isbn:12".toList, none, none⟩, .known maxWord, "data/x y"⟩] ∧
      b.metadata.entries = [("a", "3"), ("b", "2")] ∧
      b.payloadManifests.map Manifest.entries = [[(⟨"/b/x//y"⟩, "2")]] :=
    ⟨_, rfl, rfl, rfl, rfl⟩
  have hurls : b.KeepsUrls := by
    intro i hi
    rw [hitems, List.mem_singleton] at hi
    rw [hi]
    rfl
  have htotal : b.totalFetchBytes = maxWord := by
    rw [Bag.totalFetchBytes, hitems]
    rfl
  exact ⟨b, hb, hurls, htotal, hmetadata, hmanifests,
    bagForms_roundTrip.2.2.2.2.2.settles shuffledBag b hb hurls⟩

end ArchivalBag
