import RolloutCore.DigestCollisions

/-!
# The tiers of a digest

No digest is both that of a manifest and that of a declared source.
-/

namespace RolloutCore

open DeclaredWeights

/-- **The tiers are told apart.** The bytes hashed for a manifest are never those hashed for a
declared source, whatever the names, the dtypes and the fields of the source contain; so without
collisions an identity of one tier never has the digest of one of the other. -/
theorem tiers_separated (H : Sha256) (specs specs' : List ParamSpec) (p : WeightProvenance) :
    (manifestText (sortByName specs)).toUTF8 ≠ (sourceText p (H.manifestDigest specs')).toUTF8 ∧
    (NoCollision H ⟨specs, none⟩ ⟨specs', some p⟩ → ∀ i j,
      WeightIdentity.fromParamSpecs H specs none = .ok i →
      WeightIdentity.fromParamSpecs H specs' (some p) = .ok j → i.digest ≠ j.digest) := by
  have htexts := manifestText_ne_sourceText (sortByName specs) p
    (H.digest_ok (manifestText (sortByName specs')).toUTF8)
  refine ⟨fun hbytes => htexts (toUTF8_injective hbytes), fun hH i j hi hj hdigest => htexts ?_⟩
  have hdi : i.digest = digest H ⟨specs, none⟩ := identity_digest hi
  have hdj : j.digest = digest H ⟨specs', some p⟩ := identity_digest hj
  rw [hdi, hdj] at hdigest
  exact text_of_hexdigest hH (manifest_hashed ⟨specs, none⟩) (source_hashed rfl) hdigest

/-- One parameter. -/
def sampleSpec : ParamSpec := ⟨"w", "float32", [2, 3], by decide, by decide⟩

/-- Another parameter. -/
def sampleBias : ParamSpec := ⟨"b", "float32", [3], by decide, by decide⟩

/-- A declared step. -/
def sampleSource : WeightProvenance := ⟨none, none, some 1, by decide, by decide, by decide⟩

/-- A hash function that agrees with SHA-256 on the texts of the first parameter, of its declared
step, and of the two parameters. -/
def tierHash : Sha256 where
  hexdigest data :=
    if data = "w\x1ffloat32\x1f2,3\n".toUTF8 then
      "81ab003bff53678b4f8bf4bfcced0fe0eefd76128f72708880fea0aac5511f96"
    else if data = ("step=1\nsha256:" ++
        "81ab003bff53678b4f8bf4bfcced0fe0eefd76128f72708880fea0aac5511f96\n").toUTF8 then
      "ba62ade7672cbcd3b5cc0225ed817780b5e559368296fd6e0fc17325a2f2ff6d"
    else if data = "b\x1ffloat32\x1f3\nw\x1ffloat32\x1f2,3\n".toUTF8 then
      "196c4fc681947524b8386e389e1692345065085d80a99aa224f7a02c1afa66c1"
    else String.ofList (List.replicate 64 '0')
  digest_ok data := by
    split_ifs
    · rw [digestOk_append]
      decide
    · rw [digestOk_append]
      decide
    · rw [digestOk_append]
      decide
    · exact digestOk_replicate (by decide)

theorem tierHash_manifest : tierHash.hexdigest (manifestText (sortByName [sampleSpec])).toUTF8 =
    "81ab003bff53678b4f8bf4bfcced0fe0eefd76128f72708880fea0aac5511f96" := by
  have htext : manifestText (sortByName [sampleSpec]) = "w\x1ffloat32\x1f2,3\n" := by decide
  rw [htext]
  unfold tierHash
  dsimp only
  rw [if_pos rfl]

theorem tierHash_source :
    tierHash.hexdigest (sourceText sampleSource (tierHash.manifestDigest [sampleSpec])).toUTF8 =
      "ba62ade7672cbcd3b5cc0225ed817780b5e559368296fd6e0fc17325a2f2ff6d" := by
  have htext : sourceText sampleSource (tierHash.manifestDigest [sampleSpec]) =
      "step=1\nsha256:" ++
        "81ab003bff53678b4f8bf4bfcced0fe0eefd76128f72708880fea0aac5511f96\n" := by
    unfold Sha256.manifestDigest
    rw [tierHash_manifest]
    decide
  rw [htext]
  unfold tierHash
  dsimp only
  rw [if_neg, if_pos rfl]
  exact fun h => absurd (toUTF8_injective h) (by decide)

theorem tierHash_noCollision :
    NoCollision tierHash ⟨[sampleSpec], none⟩ ⟨[sampleSpec], some sampleSource⟩ := by
  have hne : tierHash.hexdigest (manifestText (sortByName [sampleSpec])).toUTF8 ≠
      tierHash.hexdigest
        (sourceText sampleSource (tierHash.manifestDigest [sampleSpec])).toUTF8 := by
    rw [tierHash_manifest, tierHash_source]
    decide
  have htexts : ∀ data ∈ hashed tierHash ⟨[sampleSpec], none⟩ ∪
      hashed tierHash ⟨[sampleSpec], some sampleSource⟩,
      data = (manifestText (sortByName [sampleSpec])).toUTF8 ∨
        data = (sourceText sampleSource (tierHash.manifestDigest [sampleSpec])).toUTF8 := by
    rintro data ((rfl | ⟨p, hp, -⟩) | (rfl | ⟨p, hp, rfl⟩))
    · exact .inl rfl
    · cases hp
    · exact .inl rfl
    · obtain rfl := Option.mem_some.mp hp
      exact .inr rfl
  intro a ha b hb hab
  obtain rfl | rfl := htexts a ha <;> obtain rfl | rfl := htexts b hb
  · rfl
  · exact absurd hab hne
  · exact absurd hab.symm hne
  · rfl

/-- The two have identities, with different digests. -/
theorem tiers_separated_sample : ∃ i j,
    WeightIdentity.fromParamSpecs tierHash [sampleSpec] none = .ok i ∧
    WeightIdentity.fromParamSpecs tierHash [sampleSpec] (some sampleSource) = .ok j ∧
    i.digest ≠ j.digest := by
  obtain ⟨i, hi⟩ := (exists_identity (H := tierHash) (x := ⟨[sampleSpec], none⟩)).mpr
    (List.nodup_singleton _)
  obtain ⟨j, hj⟩ := (exists_identity (H := tierHash)
    (x := ⟨[sampleSpec], some sampleSource⟩)).mpr (List.nodup_singleton _)
  exact ⟨i, j, hi, hj, (tiers_separated tierHash [sampleSpec] [sampleSpec] sampleSource).2
    tierHash_noCollision i j hi hj⟩

end RolloutCore
