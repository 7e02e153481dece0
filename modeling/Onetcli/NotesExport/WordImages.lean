import Mathlib.Data.List.Forall2
import Onetcli.NotesExport.Embeds

/-!
Which picture a Word document shows for an image reference. The id under which an asset is
embedded is declared one asset further on: its relationship leads to the picture that
follows in the list, if there is one.
-/

namespace Onetcli.NotesExport

open Text Chars Markup Lookups

/-! ## Relationships -/

def relationship (tag : Tag) : List (Chars × Chars) :=
  if tag.name = "Relationship".toList then
    match tag.attributes.lookup "Id".toList, tag.attributes.lookup "Target".toList with
    | some id, some target => [(id, target)]
    | _, _ => []
  else []

def imageId (index : Nat) : Chars := "rId".toList ++ digits (index + 3)

theorem imageId_inj {first second : Nat} (same : imageId first = imageId second) :
    first = second := by
  have equal := digits_inj (List.append_cancel_left same)
  omega

def extensions : List Chars :=
  ["png".toList, "jpeg".toList, "gif".toList, "svg".toList, "bin".toList]

theorem assetExtension_mem (asset : ExportAsset) : assetExtension asset ∈ extensions := by
  rw [assetExtension]
  split
  · decide
  · split
    · decide
    · split
      · decide
      · split
        · decide
        · decide

theorem assetExtension_plain {char : Char}
    (clean : (extensions.all fun extension => !extension.contains char) = true)
    (asset : ExportAsset) : char ∉ assetExtension asset := by
  have apart := List.all_eq_true.mp clean _ (assetExtension_mem asset)
  rw [Bool.not_eq_true', List.contains_eq_mem, decide_eq_false_iff_not] at apart
  exact apart

theorem assetTarget_quote (index : Nat) (asset : ExportAsset) : '"' ∉ assetTarget index asset := by
  have folder : '"' ∉ "media/image".toList := by decide +kernel
  have clean := assetExtension_plain (show (extensions.all fun extension =>
    !extension.contains '"') = true by decide +kernel) asset
  intro member
  rcases List.mem_append.mp member with front | back
  · rcases List.mem_append.mp front with inside | number
    · exact folder inside
    · exact digits_quote _ number
  · rcases List.mem_cons.mp back with same | inside
    · exact absurd same (by decide)
    · exact clean inside

theorem relationship_add (id kind target : Chars) :
    relationship (((Tag.add ⟨"Relationship".toList, []⟩ "Id".toList id).add "Type".toList kind).add
      "Target".toList target) = [(id, target)] := by
  have attributes : (((Tag.add ⟨"Relationship".toList, []⟩ "Id".toList id).add "Type".toList
      kind).add "Target".toList target).attributes =
        [("Id".toList, id), ("Type".toList, kind), ("Target".toList, target)] := rfl
  have name : (((Tag.add ⟨"Relationship".toList, []⟩ "Id".toList id).add "Type".toList kind).add
      "Target".toList target).name = "Relationship".toList := rfl
  rw [relationship, if_pos name, attributes, lookup_same, lookup_other (by decide),
    lookup_other (by decide), lookup_same]

theorem imageRelationship_yields (index : Nat) (asset : ExportAsset) :
    Yields relationship .text (imageRelationship index asset) .text
      [(imageId index, assetTarget index asset)] := by
  have start : Yields relationship .text "<Relationship Id=\"rId".toList
      (.value ⟨"Relationship".toList, []⟩ "Id".toList "rId".toList) [] :=
    yields_literal rfl rfl rfl
  have kind := (start.value (digits_quote (index + 3))).next
    "\" Type=\"http://schemas.openxmlformats.org/officeDocument/2006/relationships/image" rfl
    "Type".toList "http://schemas.openxmlformats.org/officeDocument/2006/relationships/image".toList
    (by decide) (by decide) (not_mem_literal rfl rfl)
  have target := (kind.next "\" Target=\"" rfl "Target".toList [] (by decide) (by decide)
    (by decide)).value (assetTarget_quote index asset)
  exact target.close "\"/>" rfl (relationship_add _ _ _) .text rfl rfl

def fixedRelationships : List (Chars × Chars) :=
  [("rId1".toList, "styles.xml".toList), ("rId2".toList, "numbering.xml".toList)]

theorem documentRelationships_yields (assets : List ExportAsset) :
    Yields relationship .text (documentRelationships assets) .text
      (fixedRelationships ++ assets.zipIdx.map fun entry =>
        (imageId entry.2, assetTarget entry.2 entry.1)) := by
  have images := Yields.flatMap fun entry (_ : entry ∈ assets.zipIdx) =>
    imageRelationship_yields entry.2 entry.1
  rw [← List.map_eq_flatMap] at images
  unfold documentRelationships
  refine (((show Yields relationship .text _ .text [] from ?opened).append
    (show Yields relationship .text _ .text fixedRelationships from ?fixed)).append
    images).followed ?closed
  case opened =>
    exact yields_literal (spelled_append (spelled_append rfl rfl) rfl) (by decide +kernel) rfl
  case fixed =>
    exact yields_literal (spelled_append (spelled_append (spelled_append (spelled_append rfl rfl)
      rfl) rfl) rfl) (by decide +kernel) (by decide +kernel)
  case closed => exact yields_literal rfl rfl rfl

/-! ## Content types -/

def declaredExtension (tag : Tag) : List Chars :=
  if tag.name = "Default".toList then (tag.attributes.lookup "Extension".toList).toList else []

def declaredExtensions : List Chars :=
  ["rels".toList, "xml".toList, "png".toList, "jpeg".toList, "jpg".toList, "gif".toList,
    "svg".toList]

theorem defaultType_yields {extension contentType : String} (clean : '"' ∉ extension.toList)
    (plain : '"' ∉ contentType.toList) :
    Yields declaredExtension .text (defaultType extension contentType) .text
      [extension.toList] := by
  have start : Yields declaredExtension .text "<Default Extension=\"".toList
      (.value ⟨"Default".toList, []⟩ "Extension".toList []) [] :=
    yields_literal rfl rfl rfl
  have declared (kind : Chars) : declaredExtension ((Tag.add ⟨"Default".toList, []⟩
      "Extension".toList extension.toList).add "ContentType".toList kind) =
        [extension.toList] := by
    have attributes : ((Tag.add ⟨"Default".toList, []⟩ "Extension".toList extension.toList).add
        "ContentType".toList kind).attributes =
          [("Extension".toList, extension.toList), ("ContentType".toList, kind)] := rfl
    have name : ((Tag.add ⟨"Default".toList, []⟩ "Extension".toList extension.toList).add
        "ContentType".toList kind).name = "Default".toList := rfl
    rw [declaredExtension, if_pos name, attributes, lookup_same]
    rfl
  exact (((start.value clean).next "\" ContentType=\"" rfl "ContentType".toList [] (by decide)
    (by decide) (by decide)).value plain).close "\"/>" rfl (declared _) .text rfl rfl

theorem overrideType_yields {partName contentType : String} (clean : '"' ∉ partName.toList)
    (plain : '"' ∉ contentType.toList) :
    Yields declaredExtension .text (overrideType partName contentType) .text [] := by
  have start : Yields declaredExtension .text "<Override PartName=\"".toList
      (.value ⟨"Override".toList, []⟩ "PartName".toList []) [] :=
    yields_literal rfl rfl rfl
  have other : "Override".toList ≠ "Default".toList := by decide
  exact (((start.value clean).next "\" ContentType=\"" rfl "ContentType".toList [] (by decide)
    (by decide) (by decide)).value plain).close "\"/>" rfl (if_neg other) .text rfl rfl

theorem contentTypes_yields :
    Yields declaredExtension .text contentTypes .text declaredExtensions := by
  have opened : Yields declaredExtension .text
      ("<?xml version=\"1.0\" encoding=\"UTF-8\" standalone=\"yes\"?>" ++
       "<Types xmlns=\"http://schemas.openxmlformats.org/package/2006/content-types\">").toList
      .text [] := yields_literal (spelled_append rfl rfl) (by decide +kernel) (by decide +kernel)
  have closed : Yields declaredExtension .text "</Types>".toList .text [] :=
    yields_literal rfl rfl rfl
  have extension (name kind : String) {letters others : Chars} (spelled : name = String.ofList letters)
      (clean : letters.all (· != '"') = true) (written : kind = String.ofList others)
      (plain : others.all (· != '"') = true) :
      Yields declaredExtension .text (defaultType name kind) .text [name.toList] :=
    defaultType_yields (not_mem_literal spelled clean) (not_mem_literal written plain)
  have part (name kind : String) {letters others : Chars} (spelled : name = String.ofList letters)
      (clean : letters.all (· != '"') = true) (written : kind = String.ofList others)
      (plain : others.all (· != '"') = true) :
      Yields declaredExtension .text (overrideType name kind) .text [] :=
    overrideType_yields (not_mem_literal spelled clean) (not_mem_literal written plain)
  have files := (opened.append (extension "rels"
    "application/vnd.openxmlformats-package.relationships+xml" rfl rfl rfl rfl)).append
    (extension "xml" "application/xml" rfl rfl rfl rfl)
  have pictures := ((((files.append (extension "png" "image/png" rfl rfl rfl rfl)).append
    (extension "jpeg" "image/jpeg" rfl rfl rfl rfl)).append
    (extension "jpg" "image/jpeg" rfl rfl rfl rfl)).append
    (extension "gif" "image/gif" rfl rfl rfl rfl)).append
    (extension "svg" "image/svg+xml" rfl rfl rfl rfl)
  exact ((((pictures.followed (part "/word/document.xml"
    "application/vnd.openxmlformats-officedocument.wordprocessingml.document.main+xml"
    rfl rfl rfl rfl)).followed (part "/word/styles.xml"
    "application/vnd.openxmlformats-officedocument.wordprocessingml.styles+xml"
    rfl rfl rfl rfl)).followed (part "/word/numbering.xml"
    "application/vnd.openxmlformats-officedocument.wordprocessingml.numbering+xml"
    rfl rfl rfl rfl)).followed (part "/docProps/core.xml"
    "application/vnd.openxmlformats-package.core-properties+xml" rfl rfl rfl rfl)).followed closed

def imageTypes : List Chars :=
  ["image/png".toList, "image/jpeg".toList, "image/gif".toList, "image/svg+xml".toList]

theorem assetExtension_declared (asset : ExportAsset) :
    assetExtension asset ∈ declaredExtensions ↔ asset.mediaType ∈ imageTypes := by
  rw [assetExtension]
  by_cases png : asset.mediaType = "image/png".toList
  · rw [if_pos png, png]
    exact iff_of_true (by decide) (by decide)
  · by_cases jpeg : asset.mediaType = "image/jpeg".toList
    · rw [if_neg png, if_pos jpeg, jpeg]
      exact iff_of_true (by decide) (by decide)
    · by_cases gif : asset.mediaType = "image/gif".toList
      · rw [if_neg png, if_neg jpeg, if_pos gif, gif]
        exact iff_of_true (by decide) (by decide)
      · by_cases svg : asset.mediaType = "image/svg+xml".toList
        · rw [if_neg png, if_neg jpeg, if_neg gif, if_pos svg, svg]
          exact iff_of_true (by decide) (by decide)
        · rw [if_neg png, if_neg jpeg, if_neg gif, if_neg svg]
          apply iff_of_false
          · decide
          · rw [imageTypes]
            simp only [List.mem_cons, List.not_mem_nil, png, jpeg, gif, svg, or_self,
              not_false_eq_true]

/-! ## Parts -/

def partTags (package : Package) (name : Chars) : List Tag :=
  match package.lookup name with
  | some bytes => ((fromUtf8 bytes).map tags).getD []
  | none => []

theorem partTags_text {package : Package} {name text : Chars}
    (here : package.lookup name = some (toUtf8 text)) : partTags package name = tags text := by
  rw [partTags, here]
  dsimp only
  rw [fromUtf8_toUtf8]
  rfl

def mediaName (entry : ExportAsset × Nat) : Chars :=
  "word/".toList ++ assetTarget entry.2 entry.1

theorem mediaName_spelled (entry : ExportAsset × Nat) :
    mediaName entry = "word/media/image".toList ++
      (digits (entry.2 + 1) ++ '.' :: assetExtension entry.1) := by
  have folder : "word/media/image".toList = "word/".toList ++ "media/image".toList := by
    rfl
  rw [folder, List.append_assoc, ← List.append_assoc "media/image".toList]
  rfl

theorem mediaName_inj (entry other : ExportAsset × Nat) (same : mediaName entry = mediaName other) :
    entry.2 = other.2 := by
  have plain (number : Nat) : ∀ char ∈ digits number, (char == '.') = false := by
    intro char member
    rw [beq_eq_false_iff_ne]
    rintro rfl
    exact digits_plain (by decide) number member
  -- The number stands between the folder and the first point.
  rw [mediaName_spelled, mediaName_spelled, List.append_right_inj] at same
  have numbered := congrArg (splitOnce (· == '.')) same
  rw [splitOnce_append (plain _) rfl, splitOnce_append (plain _) rfl, Option.some.injEq,
    Prod.mk.injEq] at numbered
  have equal := digits_inj numbered.1
  omega

section Package

variable (extent : List UInt8 → Nat × Nat) (input : ExportInput)

theorem fixedParts_names :
    (fixedParts extent input).map Prod.fst = ["[Content_Types].xml".toList, "_rels/.rels".toList,
      "docProps/core.xml".toList, "word/styles.xml".toList, "word/numbering.xml".toList,
      "word/_rels/document.xml.rels".toList, "word/document.xml".toList] := rfl

theorem fixed_lookup_media (entry : ExportAsset × Nat) :
    (fixedParts extent input).lookup (mediaName entry) = none := by
  have start : "word/media/image".toList.isPrefixOf (mediaName entry) = true := by
    rw [mediaName_spelled, List.isPrefixOf_iff_prefix]
    exact List.prefix_append _ _
  have apart : ∀ name ∈ (fixedParts extent input).map Prod.fst,
      "word/media/image".toList.isPrefixOf name = false := by
    rw [fixedParts_names]
    intro name member
    have all : (["[Content_Types].xml".toList, "_rels/.rels".toList,
      "docProps/core.xml".toList, "word/styles.xml".toList, "word/numbering.xml".toList,
      "word/_rels/document.xml.rels".toList, "word/document.xml".toList].all fun name =>
        !"word/media/image".toList.isPrefixOf name) = true := rfl
    have here := List.all_eq_true.mp all name member
    rwa [Bool.not_eq_true'] at here
  rw [List.lookup_eq_none_iff]
  intro part member
  rw [bne_iff_ne]
  intro same
  have other := apart _ (List.mem_map_of_mem member)
  rw [← same, start] at other
  cases other

theorem lookup_media {index : Nat} {asset : ExportAsset}
    (here : input.assets[index]? = some asset) :
    (renderDocx extent input).lookup (mediaName (asset, index)) = some asset.bytes := by
  have found := @lookup_zipIdx _ _ _ _ _ _ (fun entry => entry.1.bytes) mediaName_inj _ 0 _ _ here
  rw [Nat.zero_add] at found
  rw [renderDocx, List.lookup_append, fixed_lookup_media, Option.none_or]
  exact found

theorem lookup_fixed {name : Chars} {bytes : List UInt8}
    (here : (fixedParts extent input).lookup name = some bytes) :
    (renderDocx extent input).lookup name = some bytes := by
  rw [renderDocx, List.lookup_append, here, Option.some_or]

theorem contentTypes_tags :
    (partTags (renderDocx extent input) "[Content_Types].xml".toList).flatMap declaredExtension =
      declaredExtensions := by
  have here : (fixedParts extent input).lookup "[Content_Types].xml".toList =
      some (toUtf8 contentTypes) := by
    delta fixedParts
    rw [lookup_same]
  rw [partTags_text (lookup_fixed extent input here)]
  exact contentTypes_yields.tags

theorem relationships_tags :
    (partTags (renderDocx extent input) "word/_rels/document.xml.rels".toList).flatMap
        relationship = fixedRelationships ++ input.assets.zipIdx.map fun entry =>
        (imageId entry.2, assetTarget entry.2 entry.1) := by
  have here : (fixedParts extent input).lookup "word/_rels/document.xml.rels".toList =
      some (toUtf8 (documentRelationships input.assets)) := by
    delta fixedParts
    rw [lookup_other (by decide), lookup_other (by decide), lookup_other (by decide),
      lookup_other (by decide), lookup_other (by decide), lookup_same]
  rw [partTags_text (lookup_fixed extent input here)]
  exact (documentRelationships_yields input.assets).tags

theorem document_tags :
    (partTags (renderDocx extent input) "word/document.xml".toList).flatMap embeds =
      embedIds input.assets (imagePaths input.source) := by
  have here : (fixedParts extent input).lookup "word/document.xml".toList =
      some (toUtf8 (documentXml extent input.source input.assets)) := by
    delta fixedParts
    rw [lookup_other (by decide), lookup_other (by decide), lookup_other (by decide),
      lookup_other (by decide), lookup_other (by decide), lookup_other (by decide), lookup_same]
  rw [partTags_text (lookup_fixed extent input here)]
  exact (documentXml_yields extent input.source input.assets).tags

end Package

/-! ## The right pictures -/

/-- An id that the document embeds is declared, the part that its relationship leads to is in
the package, with an extension that is declared, and has the bytes of an asset. -/
structure EmbedsAsset (package : Package) (id : Chars) (asset : ExportAsset) (target : Chars) :
    Prop where
  declared : ((partTags package "word/_rels/document.xml.rels".toList).flatMap
    relationship).lookup id = some target
  bytes : package.lookup ("word/".toList ++ target) = some asset.bytes
  extension : lastPart (· == '.') target ∈
    (partTags package "[Content_Types].xml".toList).flatMap declaredExtension

/-- The ids in the document are those of the assets that its image references name, in
their order, the first asset of a path being the one named. -/
def RightImages (package : Package) (input : ExportInput) : Prop :=
  List.Forall₂ (fun id asset => ∃ target, EmbedsAsset package id asset target)
    ((partTags package "word/document.xml".toList).flatMap embeds)
    ((namedAssets input.assets (imagePaths input.source)).map Prod.fst)

theorem embedId_not_fixed (index : Nat) : fixedRelationships.lookup (embedId index) = none := by
  have apart {number : Nat} (small : number < 4) : embedId index ≠ "rId".toList ++ digits number := by
    intro same
    rw [embedId, List.append_right_inj] at same
    have equal := digits_inj same
    omega
  have first : "rId1".toList = "rId".toList ++ digits 1 := rfl
  have second : "rId2".toList = "rId".toList ++ digits 2 := rfl
  rw [fixedRelationships, first, second, lookup_other (apart (by decide)),
    lookup_other (apart (by decide))]
  rfl

theorem relationship_lookup (assets : List ExportAsset) (index : Nat) :
    (fixedRelationships ++ assets.zipIdx.map fun entry =>
        (imageId entry.2, assetTarget entry.2 entry.1)).lookup (embedId index) =
      assets[index + 1]?.map (assetTarget (index + 1)) := by
  have shifted : embedId index = imageId (index + 1) := rfl
  rw [List.lookup_append, embedId_not_fixed, Option.none_or, shifted]
  cases next : assets[index + 1]? with
  | none =>
    apply lookup_zipIdx_none
    intro asset number here same
    rw [Nat.zero_add] at same
    have equal : number = index + 1 := imageId_inj same
    rw [equal, next] at here
    cases here
  | some asset =>
    have found := @lookup_zipIdx _ _ _ _ _ (fun entry : ExportAsset × Nat => imageId entry.2)
      (fun entry => assetTarget entry.2 entry.1) (fun _ _ same => imageId_inj same) _ 0 _ _ next
    rw [Nat.zero_add] at found
    exact found

theorem assetTarget_extension (index : Nat) (asset : ExportAsset) :
    lastPart (· == '.') (assetTarget index asset) = assetExtension asset := by
  have plain : ∀ char ∈ assetExtension asset, (char == '.') = false := by
    intro char member
    rw [beq_eq_false_iff_ne]
    rintro rfl
    exact assetExtension_plain rfl asset member
  delta assetTarget
  exact lastPart_append plain rfl _

theorem embedsAsset_iff (extent : List UInt8 → Nat × Nat) (input : ExportInput)
    (asset : ExportAsset) (index : Nat) :
    (∃ target, EmbedsAsset (renderDocx extent input) (embedId index) asset target) ↔
      ∃ next, input.assets[index + 1]? = some next ∧ next.bytes = asset.bytes ∧
        next.mediaType ∈ imageTypes := by
  constructor
  · rintro ⟨target, declared, bytes, extension⟩
    rw [relationships_tags, relationship_lookup] at declared
    rcases Option.map_eq_some_iff.mp declared with ⟨next, here, rfl⟩
    rw [contentTypes_tags, assetTarget_extension, assetExtension_declared] at extension
    have media := lookup_media extent input here
    exact ⟨next, here, Option.some.inj (media.symm.trans bytes), extension⟩
  · rintro ⟨next, here, same, kind⟩
    refine ⟨assetTarget (index + 1) next, ?_, ?_, ?_⟩
    · rw [relationships_tags, relationship_lookup, here, Option.map_some]
    · rw [← same]
      exact lookup_media extent input here
    · rw [contentTypes_tags, assetTarget_extension, assetExtension_declared]
      exact kind

/-- Every image reference is given its picture if and only if each asset that one names is
followed in the list by one with the same bytes, of a kind of picture with a declared
extension. -/
theorem word_images_iff (extent : List UInt8 → Nat × Nat) (input : ExportInput) :
    RightImages (renderDocx extent input) input ↔
      ∀ path ∈ imagePaths input.source, ∀ asset index,
        findAsset input.assets path = some (asset, index) →
          ∃ next, input.assets[index + 1]? = some next ∧ next.bytes = asset.bytes ∧
            next.mediaType ∈ imageTypes := by
  rw [RightImages, document_tags, embedIds, List.forall₂_map_left_iff, List.forall₂_map_right_iff,
    List.forall₂_same]
  constructor
  · intro right path member asset index found
    have named : (asset, index) ∈ namedAssets input.assets (imagePaths input.source) := by
      rw [namedAssets, List.mem_flatMap]
      exact ⟨path, member, by rw [found]; exact List.mem_singleton_self _⟩
    have here := right _ named
    dsimp only at here
    rwa [embedsAsset_iff] at here
  · intro followed entry member
    rw [namedAssets, List.mem_flatMap] at member
    rcases member with ⟨path, among, here⟩
    have found : findAsset input.assets path = some (entry.1, entry.2) :=
      Option.mem_toList.mp here
    rw [embedsAsset_iff]
    exact followed path among _ _ found

def onePicture : ExportInput :=
  ⟨"note".toList, "![a](a.png)".toList, [⟨"a.png".toList, "image/png".toList, [1]⟩]⟩

theorem onePicture_named : namedAssets onePicture.assets (imagePaths onePicture.source) =
      [(⟨"a.png".toList, "image/png".toList, [1]⟩, 0)] := by
  decide +kernel

/-- The one picture is embedded under an id that is not declared. -/
theorem one_picture_is_lost : (onePicture.assets.map ExportAsset.path).Nodup ∧
    ¬RightImages (renderDocx (fun _ => (1, 1)) onePicture) onePicture := by
  constructor
  · decide +kernel
  · intro right
    rw [RightImages, document_tags, embedIds, onePicture_named] at right
    rcases List.forall₂_cons.mp right with ⟨here, _⟩
    rcases (embedsAsset_iff _ onePicture _ 0).mp here with ⟨next, absent, _⟩
    rw [onePicture] at absent
    cases absent

end Onetcli.NotesExport
