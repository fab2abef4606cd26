import ArtifactRegistry.Proofs.Json.RoundTrip

/-! # Descriptors read back

A descriptor that was written is read back as it was, whatever it holds: fields that are left out are
those that say the same as the empty descriptor.
-/

namespace ArtifactRegistry

open Json Json.Record

variable {depth : Nat}

theorem Json.Value.fits_string (levels : Nat) (text : String) :
    (Value.string text).fits levels = true := by
  simp [Value.fits]

@[simp] theorem Json.Value.fits_ofTexts (levels : Nat) (texts : List String) :
    (Value.ofTexts texts).fits (levels + 1) = true := by
  simp [Value.ofTexts, Value.fits]

@[simp] theorem Json.Value.fits_ofMap (levels : Nat) (map : SortedMap String) :
    (Value.ofMap map).fits (levels + 1) = true := by
  simp [Value.ofMap, Value.fits]

@[simp] theorem Json.Value.fits_size (levels : Nat) (size : Int64) :
    (Value.ofInt size.toInt).fits levels = true := by
  have low := size.le_toInt
  have high := size.toInt_lt
  simp only [Value.ofInt, Value.fits, Bool.and_eq_true, decide_eq_true_eq]
  omega

@[simp] theorem Json.Value.fits_version (levels : Nat) (version : UInt32) :
    (Value.ofInt version.toNat).fits levels = true := by
  have bound := version.toNat_lt
  simp only [Value.ofInt, Value.fits, Bool.and_eq_true, decide_eq_true_eq]
  omega

namespace Platform

@[simp] theorem fits_toJson (levels : Nat) (p : Platform) : p.toJson.fits (levels + 2) = true := by
  simp [toJson, Value.fits, membersFit]

/-- A platform is read back as it was written. -/
theorem read_toJson (p : Platform) (shallow : depth + 2 < nestingLimit) :
    record.read depth p.toJson.node = .ok p := by
  refine read_of_written (by decide) (by omega) ?_
  simp only [List.cons_append, List.append_assoc, List.nil_append]
  refine .must (Reader.text_string _) <| .must (Reader.text_string _) <| .textIfSome rfl <|
    .ifShown (Reader.list_ofTexts _ shallow) ?_ <| .textIfSome rfl <|
    .ifShown (Reader.list_ofTexts _ shallow) ?_ <| .done _
  · intro hidden
    rw [show p.osFeatures = [] by simpa using hidden]
    rfl
  · intro hidden
    rw [show p.features = [] by simpa using hidden]
    rfl

end Platform

namespace Descriptor

@[simp] theorem fits_toJson (levels : Nat) (d : Descriptor) : d.toJson.fits (levels + 3) = true := by
  simp [toJson, Value.fits, Platform.fits_toJson]

/-- A descriptor is read back as it was written. -/
theorem read_toJson (d : Descriptor) (shallow : depth + 3 < nestingLimit) :
    record.read depth d.toJson.node = .ok d := by
  have level : depth + 1 + 1 < nestingLimit := by omega
  refine read_of_written (by decide) (by omega) ?_
  simp only [List.append_assoc]
  refine .ifShown (Reader.text_string _) ?_ <| .ifShown (Reader.size_ofInt _) ?_ <|
    .ifShown (Reader.text_string _) ?_ <| .ifShown (Reader.list_ofTexts _ level) ?_ <|
    .ifShown (Reader.map_ofMap _ level) ?_ <|
    .ifSome (fun platform _ => platform.read_toJson (by omega)) (fun _ => nofun) rfl <|
    .textIfSome rfl <| .done _
  · intro hidden
    rw [show d.mediaType = "" by simpa using hidden]
    rfl
  · intro hidden
    rw [show d.size = 0 by simpa using hidden]
    rfl
  · intro hidden
    rw [show d.digest.text = "" by simpa [Digest.isEmpty] using hidden]
    rfl
  · intro hidden
    rw [show d.urls = [] by simpa using hidden]
    rfl
  · intro hidden
    rw [show d.annotations = ∅ from SortedMap.eq_empty_of_isEmpty (by simpa using hidden)]
    rfl

end Descriptor

end ArtifactRegistry
