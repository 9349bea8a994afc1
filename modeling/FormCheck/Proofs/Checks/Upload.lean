import FormCheck.Checks.Upload
import FormCheck.Proofs.Text.Ascii
import FormCheck.Proofs.Text.Split

/-!
The tests of uploads in any state of the files. An image is a file whose first bytes tell an image.
What is answered rests on the status, the size and these bytes; only where they tell nothing and the
allowed types are named does the stated type count, and then up to the case of its letters.
-/
namespace FormCheck

namespace Text

variable {a b : String}

private theorem eqIgnoringCase_iff : eqIgnoringCase a b = true ↔
    a.toList.map Char.toLower = b.toList.map Char.toLower := by
  rw [eqIgnoringCase, beq_iff_eq]

private theorem eqIgnoringCase_congr (h : eqIgnoringCase a b = true) (c : String) :
    eqIgnoringCase c a = eqIgnoringCase c b := by
  unfold eqIgnoringCase
  rw [eqIgnoringCase_iff.1 h]

end Text

namespace Files

/-- What there is to learn of paths: whether a file lies there and which bytes can be read. -/
structure View where
  isFile : String → Bool
  bytes? : String → Option (List UInt8)

def Tree.view (t : Tree) : View where
  isFile := t.isFile
  bytes? path := (t.readBytes path).toOption.map ByteArray.toList

end Files

namespace Checks

def sniffed? (view : Files.View) : Value → Option String
  | .upload u => (view.bytes? u.path).bind fun bytes => Files.sniff? (bytes.take Files.headLength)
  | _ => none

def isTooLarge (u : Upload) (params : List String) : Bool :=
  match bound? params 0 with
  | some limit => !(Double.ofNat u.size.toNat).le limit && !limit.isNaN
  | none => false

/-- The content of a usable upload within the limit of size, in any state of the files. -/
def contentIn? (view : Files.View) (v : Value) (params : List String) : Option Content :=
  match v with
  | .upload u =>
    if u.error == Upload.noError && view.isFile u.path && !isTooLarge u params then
      (view.bytes? u.path).map fun _ => ⟨sniffed? view v, u.declaredType⟩
    else none
  | _ => none

/-- The content is of an allowed type, told by its bytes or else stated. -/
def admits (params : List String) (content : Content) : Bool :=
  (allowList? params).all fun types =>
    types.any (typeMatches (content.detected.getD content.declared))

def admitsImage (params : List String) (content : Content) : Bool :=
  content.detected.any fun type =>
    "image/".toList.isPrefixOf type.toList &&
      ((allowList? params).elim (imageTypes.contains type) fun types => types.any (typeMatches type))

def fileIn (view : Files.View) (v : Value) (params : List String) : Bool :=
  (contentIn? view v params).any (admits params)

def imageIn (view : Files.View) (v : Value) (params : List String) : Bool :=
  (contentIn? view v params).any (admitsImage params)

variable {view : Files.View} {v : Value} {params : List String} {content : Content}

private theorem inspect?_upload (env : Surroundings) (u : Upload) (params : List String) :
    inspect? env (.upload u) params =
      if u.isUsable env.files && !isTooLarge u params then
        match env.files.readBytes u.path with
        | .ok bytes => some ⟨Files.sniff? (bytes.toList.take Files.headLength), u.declaredType⟩
        | .error _ => none
      else none := rfl

private theorem inspect?_eq (env : Surroundings) (v : Value) (params : List String) :
    inspect? env v params = contentIn? env.files.view v params := by
  cases v with
  | upload u =>
    rw [inspect?_upload]
    unfold contentIn? sniffed? Upload.isUsable Files.Tree.view
    dsimp only
    cases env.files.readBytes u.path <;> rfl
  | _ => rfl

private theorem file_eq (env : Surroundings) (v : Value) (params : List String) :
    file env v params = fileIn env.files.view v params := by
  unfold file fileIn admits
  rw [inspect?_eq]
  cases contentIn? env.files.view v params with
  | none => rfl
  | some content => cases allowList? params <;> rfl

private theorem image_eq (env : Surroundings) (v : Value) (params : List String) :
    image env v params = imageIn env.files.view v params := by
  unfold image imageIn admitsImage
  rw [inspect?_eq]
  cases contentIn? env.files.view v params with
  | none => rfl
  | some content =>
    cases hd : content.detected with
    | none => simp [hd]
    | some type => cases allowList? params <;> simp [hd]

private theorem detected_of_contentIn? (h : contentIn? view v params = some content) :
    content.detected = sniffed? view v := by
  unfold contentIn? at h
  split at h
  · split at h
    · obtain ⟨bytes, -, rfl⟩ := Option.map_eq_some_iff.1 h
      rfl
    · cases h
  · cases h

private theorem allowList?_eq_none_iff : allowList? params = none ↔ params.length < 2 := by
  unfold allowList?
  split
  · next h =>
    have hlength := List.drop_eq_nil_iff.1 h
    simp only [true_iff]
    omega
  · next h =>
    have hlength := mt List.drop_eq_nil_iff.2 h
    simp only [reduceCtorEq, false_iff]
    omega

private theorem isPrefixOf_of_mem_imageTypes {type : String} (h : type ∈ imageTypes) :
    "image/".toList.isPrefixOf type.toList = true := by
  revert type
  decide

private theorem admitsImage_of_allowList? {types : List String}
    (h : allowList? params = some types) :
    admitsImage params content =
      (admits params content &&
        content.detected.any fun type => "image/".toList.isPrefixOf type.toList) := by
  unfold admitsImage admits
  rw [h]
  cases content.detected with
  | none => simp
  | some type => simp [Bool.and_comm]

private theorem admitsImage_of_no_allowList (h : allowList? params = none) :
    admitsImage params content =
      (admits params content && content.detected.any imageTypes.contains) := by
  unfold admitsImage admits
  rw [h]
  cases content.detected with
  | none => simp
  | some type =>
    have hprefix := @isPrefixOf_of_mem_imageTypes type
    simp only [Option.any_some, Option.elim_none, Option.all_none, Bool.true_and]
    rw [Bool.and_eq_right_iff_imp, List.contains_iff_mem]
    exact hprefix

private theorem fileIn_of_content (h : contentIn? view v params = some content) :
    fileIn view v params = admits params content := by
  rw [fileIn, h, Option.any_some]

private theorem imageIn_of_content (h : contentIn? view v params = some content) :
    imageIn view v params = admitsImage params content := by
  rw [imageIn, h, Option.any_some]

/-- In any state of the files and for any value, an image is a file whose first bytes tell some image
where the allowed types are named, and one of the types of images where they are not. -/
theorem image_iff_file (view : Files.View) (v : Value) (params : List String) :
    (imageIn view v params = true → fileIn view v params = true) ∧
    (2 ≤ params.length → (imageIn view v params = true ↔ fileIn view v params = true ∧
      ∃ type, sniffed? view v = some type ∧ "image/".toList <+: type.toList)) ∧
    (params.length < 2 → (imageIn view v params = true ↔ fileIn view v params = true ∧
      ∃ type, sniffed? view v = some type ∧ type ∈ imageTypes)) ∧
    ∀ env : Surroundings, image env v params = imageIn env.files.view v params ∧
      file env v params = fileIn env.files.view v params := by
  have hnamed (h : 2 ≤ params.length) : imageIn view v params = true ↔
      fileIn view v params = true ∧
        ∃ type, sniffed? view v = some type ∧ "image/".toList <+: type.toList := by
    cases hc : contentIn? view v params with
    | none => simp [imageIn, fileIn, hc]
    | some content =>
      obtain ⟨types, htypes⟩ : ∃ types, allowList? params = some types :=
        Option.ne_none_iff_exists'.1 (mt allowList?_eq_none_iff.1 (by omega))
      rw [fileIn_of_content hc, imageIn_of_content hc, admitsImage_of_allowList? htypes,
        detected_of_contentIn? hc, Bool.and_eq_true, Option.any_eq_true]
      simp only [List.isPrefixOf_iff_prefix]
  have hdefault (h : params.length < 2) : imageIn view v params = true ↔
      fileIn view v params = true ∧ ∃ type, sniffed? view v = some type ∧ type ∈ imageTypes := by
    cases hc : contentIn? view v params with
    | none => simp [imageIn, fileIn, hc]
    | some content =>
      rw [fileIn_of_content hc, imageIn_of_content hc,
        admitsImage_of_no_allowList (allowList?_eq_none_iff.2 h), detected_of_contentIn? hc,
        Bool.and_eq_true, Option.any_eq_true]
      simp only [List.contains_iff_mem]
  refine ⟨fun himage => ?_, hnamed, hdefault, fun env => ⟨image_eq env v params,
    file_eq env v params⟩⟩
  rcases Nat.lt_or_ge params.length 2 with h | h
  · exact ((hdefault h).1 himage).1
  · exact ((hnamed h).1 himage).1

theorem image_iff_file_of_bitmap :
    let view : Files.View := ⟨fun path => path == "up", fun _ => some [0x42, 0x4D, 0x00]⟩
    let v : Value := .upload ⟨0, "up", 3, "image/png"⟩
    imageIn view v ["3"] = false ∧ fileIn view v ["3"] = true ∧
      imageIn view v ["", "IMAGE/*"] = true ∧ fileIn view v ["", "IMAGE/*"] = true := by
  intro view v
  have hsniffed : sniffed? view v = some "image/bmp" := by decide
  have hfile : fileIn view v ["3"] = true := by decide +kernel
  have hnamed : fileIn view v ["", "IMAGE/*"] = true := by decide +kernel
  refine ⟨?_, hfile, ?_, hnamed⟩
  · rw [← Bool.not_eq_true, (image_iff_file view v ["3"]).2.2.1 (by decide)]
    rintro ⟨-, type, htype, hmem⟩
    obtain rfl := Option.some.inj (hsniffed.symm.trans htype)
    revert hmem
    decide
  · exact ((image_iff_file view v ["", "IMAGE/*"]).2.1 (by decide)).2
      ⟨hnamed, "image/bmp", hsniffed, by decide⟩

/-- Two uploads of one status and stated size whose files are there, can be read and begin with the
same 512 bytes. -/
structure LookAlike (view₁ view₂ : Files.View) (u₁ u₂ : Upload) (head : List UInt8) : Prop where
  error_eq : u₁.error = u₂.error
  size_eq : u₁.size = u₂.size
  isFile₁ : view₁.isFile u₁.path = true
  isFile₂ : view₂.isFile u₂.path = true
  head₁ : (view₁.bytes? u₁.path).map (List.take 512) = some head
  head₂ : (view₂.bytes? u₂.path).map (List.take 512) = some head

variable {view₁ view₂ : Files.View} {u u₁ u₂ : Upload} {head : List UInt8} {a b : String}

private theorem contentIn?_upload (hfile : view.isFile u.path = true)
    (hhead : (view.bytes? u.path).map (List.take 512) = some head) :
    contentIn? view (.upload u) params =
      if u.error == Upload.noError && !isTooLarge u params then
        some ⟨Files.sniff? head, u.declaredType⟩
      else none := by
  obtain ⟨bytes, hbytes, rfl⟩ := Option.map_eq_some_iff.1 hhead
  unfold contentIn? sniffed?
  dsimp only
  rw [hfile, hbytes, Bool.and_true, Option.map_some, Option.bind_some, Files.headLength]

private theorem isTooLarge_congr (h : u₁.size = u₂.size) (params : List String) :
    isTooLarge u₁ params = isTooLarge u₂ params := by
  unfold isTooLarge
  rw [h]

private theorem LookAlike.any_congr (h : LookAlike view₁ view₂ u₁ u₂ head) (params : List String)
    {test : Content → Bool} (htest : test ⟨Files.sniff? head, u₁.declaredType⟩ =
      test ⟨Files.sniff? head, u₂.declaredType⟩) :
    (contentIn? view₁ (.upload u₁) params).any test =
      (contentIn? view₂ (.upload u₂) params).any test := by
  rw [contentIn?_upload h.isFile₁ h.head₁, contentIn?_upload h.isFile₂ h.head₂, h.error_eq,
    isTooLarge_congr h.size_eq]
  split
  · exact htest
  · rfl

private theorem family_congr (h : Text.eqIgnoringCase a b = true) :
    (Text.splitFirst? '/' a.toList).map (fun p => p.1.map Char.toLower) =
      (Text.splitFirst? '/' b.toList).map fun p => p.1.map Char.toLower := by
  have hslash (c : Char) : c.toLower = '/' ↔ c = '/' := Text.toLower_eq_iff rfl
  have hsplit := congrArg (Text.splitFirst? '/') (Text.eqIgnoringCase_iff.1 h)
  rw [Text.splitFirst?_map hslash, Text.splitFirst?_map hslash] at hsplit
  have hfirst := congrArg (Option.map Prod.fst) hsplit
  rwa [Option.map_map, Option.map_map] at hfirst

private theorem typeMatches_congr (h : Text.eqIgnoringCase a b = true) (allowed : String) :
    typeMatches a allowed = typeMatches b allowed := by
  have hfamily := family_congr h
  unfold typeMatches
  rw [Text.eqIgnoringCase_congr h]
  congr 1
  cases ha : Text.splitFirst? '/' a.toList with
  | none =>
    cases hb : Text.splitFirst? '/' b.toList with
    | none => rfl
    | some cut => simp [ha, hb] at hfamily
  | some cut₁ =>
    cases hb : Text.splitFirst? '/' b.toList with
    | none => simp [ha, hb] at hfamily
    | some cut₂ =>
      obtain ⟨kind₁, _⟩ := cut₁
      obtain ⟨kind₂, _⟩ := cut₂
      rw [ha, hb, Option.map_some, Option.map_some, Option.some.injEq] at hfamily
      have hkind : Text.eqIgnoringCase (.ofList kind₁) (.ofList kind₂) = true := by
        rwa [Text.eqIgnoringCase_iff, String.toList_ofList, String.toList_ofList]
      split
      · next hstar hcut =>
        cases hcut
        rw [hstar]
        exact Text.eqIgnoringCase_congr hkind _
      · next hother =>
        split
        · next hstar _ => exact (hother _ _ _ hstar rfl).elim
        · rfl

private theorem admits_congr {detected : Option String} (h : detected ≠ none ∨ params.length < 2)
    (declared₁ declared₂ : String) :
    admits params ⟨detected, declared₁⟩ = admits params ⟨detected, declared₂⟩ := by
  unfold admits
  rcases h with h | h
  · obtain ⟨type, rfl⟩ := Option.ne_none_iff_exists'.1 h
    rfl
  · rw [allowList?_eq_none_iff.2 h]
    rfl

private theorem admits_congr_of_eqIgnoringCase (h : Text.eqIgnoringCase a b = true)
    (params : List String) (detected : Option String) :
    admits params ⟨detected, a⟩ = admits params ⟨detected, b⟩ := by
  unfold admits
  cases detected with
  | none => simp only [Option.getD_none, funext (typeMatches_congr h)]
  | some type => rfl

private theorem admitsImage_congr (params : List String) (detected : Option String)
    (declared₁ declared₂ : String) :
    admitsImage params ⟨detected, declared₁⟩ = admitsImage params ⟨detected, declared₂⟩ := rfl

/-- Two uploads that look alike are both images or both not, and both files or both not. The stated
type counts only where the bytes tell nothing and the allowed types are named, and there up to the
case of its letters. -/
theorem verdict_rests_on_head (h : LookAlike view₁ view₂ u₁ u₂ head) (params : List String) :
    imageIn view₁ (.upload u₁) params = imageIn view₂ (.upload u₂) params ∧
    (¬(Files.sniff? head = none ∧ 2 ≤ params.length) →
      fileIn view₁ (.upload u₁) params = fileIn view₂ (.upload u₂) params) ∧
    (Text.eqIgnoringCase u₁.declaredType u₂.declaredType = true →
      fileIn view₁ (.upload u₁) params = fileIn view₂ (.upload u₂) params) ∧
    ∀ (env : Surroundings) (v : Value), image env v params = imageIn env.files.view v params ∧
      file env v params = fileIn env.files.view v params := by
  refine ⟨?_, fun htold => ?_, fun hcase => ?_, fun env v => ⟨image_eq env v params,
    file_eq env v params⟩⟩
  · exact h.any_congr params (admitsImage_congr params _ _ _)
  · rw [Decidable.not_and_iff_not_or_not, Nat.not_le] at htold
    exact h.any_congr params (admits_congr htold _ _)
  · exact h.any_congr params (admits_congr_of_eqIgnoringCase hcase params _)

/-- A picture is one under any stated type and with any bytes behind its first 512, and no page. -/
theorem verdict_rests_on_head_of_picture :
    let head : List UInt8 := [0xFF, 0xD8, 0xFF] ++ List.replicate 509 0
    let view : Files.View :=
      ⟨fun _ => true, fun path => some (head ++ if path == "a" then [1] else [2, 3])⟩
    let a : Value := .upload ⟨0, "a", 3, "IMAGE/JPEG"⟩
    let b : Value := .upload ⟨0, "b", 3, "text/html"⟩
    imageIn view a ["", "image/*"] = true ∧ imageIn view b ["", "image/*"] = true ∧
      fileIn view a ["", "text/html"] = false ∧ fileIn view b ["", "text/html"] = false := by
  intro head view a b
  have halike : LookAlike view view ⟨0, "a", 3, "IMAGE/JPEG"⟩ ⟨0, "b", 3, "text/html"⟩ head :=
    ⟨rfl, rfl, rfl, rfl, by decide +kernel, by decide +kernel⟩
  have htold : Files.sniff? head ≠ none := by decide +kernel
  have himage : imageIn view a ["", "image/*"] = true := by decide +kernel
  have hfile : fileIn view a ["", "text/html"] = false := by decide +kernel
  refine ⟨himage, ?_, hfile, ?_⟩
  · exact (verdict_rests_on_head halike ["", "image/*"]).1.symm.trans himage
  · exact ((verdict_rests_on_head halike ["", "text/html"]).2.1 fun hnone =>
      htold hnone.1).symm.trans hfile

end Checks

end FormCheck
