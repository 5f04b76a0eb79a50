import PgpCard.Proofs.Record.RoundTrip
import PgpCard.Proofs.Store.Volume
import PgpCard.Proofs.Text.Utf8
import PgpCard.Store.Directory

/-!
# Where a store keeps what

Names here are made of letters, digits and underscores.

* `DirectoryStore.IsFile`    : the files that a store reads, with the siblings by way of which
  they are replaced: no sibling is a file of the store, and no two names share a file;
* `Table.keys_insert`        : a key that is written stands once;
* `DirectoryStore.scalarsOfText?_print` : the numbers are read back from the document that they
  are written as.
-/

set_option autoImplicit false

namespace PgpCard

/-! ## Names -/

/-- A letter, a digit or an underscore.  Every character beyond ASCII counts as a letter. -/
def IsWordChar (c : Char) : Prop := c.isAlphanum = true ∨ c = '_' ∨ 128 ≤ c.toNat

/-- A name made of letters, digits and underscores. -/
def IsWord (name : String) : Prop := ∀ c ∈ name.toList, IsWordChar c

instance (c : Char) : Decidable (IsWordChar c) := inferInstanceAs (Decidable (_ ∨ _ ∨ _))

instance (name : String) : Decidable (IsWord name) :=
  List.decidableBAll IsWordChar name.toList

theorem toNat_of_isAlphanum :
    ∀ n < 128, (Char.ofNat n).isAlphanum = true → 48 ≤ n ∧ n ≠ 92 := by
  decide +kernel

theorem IsWordChar.toNat {c : Char} (h : IsWordChar c) : 48 ≤ c.toNat ∧ c.toNat ≠ 92 := by
  rcases h with alphanum | rfl | beyond
  · by_cases ascii : c.toNat < 128
    · exact toNat_of_isAlphanum _ ascii (by rwa [Char.ofNat_toNat])
    · omega
  · decide
  · omega

theorem IsWordChar.ne {c d : Char} (h : IsWordChar c) (low : d.toNat < 48) : c ≠ d := by
  rintro rfl
  have := h.toNat
  omega

namespace DirectoryStore

open Volume

/-! ## Files -/

/-- The files of a store: the one with the numbers, and one for each byte string. -/
inductive IsFile : String → Prop
  | scalars : IsFile scalarsName
  | blob {name : String} : IsWord name → IsFile (blobFileName name)

theorem toList_blobFileName (name : String) :
    (blobFileName name).toList = name.toList ++ ['.', 'b', 'i', 'n'] :=
  String.toList_append

theorem blobFileName_inj {name other : String} :
    blobFileName name = blobFileName other ↔ name = other := by
  rw [← String.toList_inj, toList_blobFileName, toList_blobFileName, List.append_left_inj,
    String.toList_inj]

theorem blobFileName_ne_scalarsName (name : String) : blobFileName name ≠ scalarsName := by
  intro same
  have ending : ['.', 'b', 'i', 'n'] <:+ scalarsName.toList :=
    ⟨name.toList, by rw [← toList_blobFileName, same]⟩
  exact absurd ending (by decide)

theorem isName_of_length {file : String} (long : 2 < file.toList.length) : IsName file := by
  refine ⟨?_, ?_, ?_⟩ <;> rintro rfl <;> exact absurd long (by decide)

theorem IsFile.isName {file : String} (h : IsFile file) : IsName file := by
  refine isName_of_length ?_
  cases h with
  | scalars => decide
  | blob =>
    rw [toList_blobFileName, List.length_append]
    exact Nat.lt_of_lt_of_le (by decide) (Nat.le_add_left _ _)

/-- A file of a store stands right in its directory. -/
theorem IsFile.path_eq {file : String} (h : IsFile file) (directory : Path) :
    path directory file = directory ++ [file] := by
  have flat : '/' ∉ file.toList := by
    cases h with
    | scalars => decide
    | blob word =>
      rw [toList_blobFileName, List.mem_append]
      rintro (mem | mem)
      · exact (word _ mem).ne (by decide) rfl
      · exact absurd mem (by decide)
  have relative : file.toList.head? ≠ some '/' := fun first => flat (List.mem_of_head? first)
  rw [DirectoryStore.path, Path.resolve, if_neg relative, Path.ofText,
    List.splitOn_eq_singleton flat, List.map_singleton, String.ofList_toList]
  split
  · rename_i empty
    exact absurd (List.cons.inj empty).1 h.isName.1
  · rfl

/-! ## Siblings -/

theorem stem_blobFileName (name : String) :
    Path.stem (blobFileName name).toList =
      if name.toList = [] then ['.', 'b', 'i', 'n'] else name.toList := by
  have behind : ((blobFileName name).toList.reverse).dropWhile (· != '.') =
      '.' :: name.toList.reverse := by
    simp [toList_blobFileName]
  rw [Path.stem, behind]
  simp only [List.isEmpty_reverse, List.isEmpty_iff, List.reverse_reverse]
  split
  · rename_i empty
    rw [toList_blobFileName, empty, List.nil_append]
  · rfl

/-- A sibling has an ending of its own. -/
theorem IsFile.sibling {file : String} (h : IsFile file) :
    ['.', 't', 'm', 'p'] <:+ (Path.rename "tmp" file).toList := by
  have kept : Path.stem file.toList ≠ ['.'] := by
    cases h with
    | scalars => decide
    | @blob name word =>
      rw [stem_blobFileName]
      split
      · decide
      · intro dot
        exact (word '.' (by rw [dot]; exact List.mem_singleton_self _)).ne (by decide) rfl
  unfold Path.rename
  split
  · rename_i dot
    exact absurd dot kept
  · rw [String.toList_append, String.toList_append, List.append_assoc]
    exact List.suffix_append _ _

theorem IsFile.sibling_isName {file : String} (h : IsFile file) :
    IsName (Path.rename "tmp" file) :=
  isName_of_length (Nat.lt_of_lt_of_le (by decide) h.sibling.length_le)

theorem IsFile.getLast? {file : String} (h : IsFile file) :
    file.toList.getLast? = some 'n' := by
  cases h with
  | scalars => decide
  | blob => simp [toList_blobFileName]

/-- No sibling is a file of the store. -/
theorem IsFile.ne_sibling {file other : String} (h : IsFile file) (h' : IsFile other) :
    file ≠ Path.rename "tmp" other := by
  intro same
  obtain ⟨kept, written⟩ := h'.sibling
  have last := h.getLast?
  rw [same, ← written] at last
  simp at last

end DirectoryStore

/-! ## Tables -/

namespace Table

variable {α : Type} {key : String} {value : α}

/-- The keys of some pairs. -/
def keys (entries : List (String × α)) : List String := entries.map (·.1)

theorem keys_replace (entries : List (String × α)) :
    keys (replace key value entries) =
      if key ∈ keys entries then keys entries else keys entries ++ [key] := by
  induction entries with
  | nil => rfl
  | cons entry rest ih =>
    obtain ⟨k, old⟩ := entry
    by_cases here : k = key
    · simp [replace, keys, here]
    · rw [replace, if_neg here]
      have other : key ≠ k := fun same => here same.symm
      simp only [keys, List.map_cons, List.mem_cons, other, false_or] at ih ⊢
      rw [ih]
      split <;> simp [*]

/-- A key that is written stands once. -/
theorem nodup_keys_insert {table : Table α} (h : (keys table.entries).Nodup) :
    (keys (table.insert key value).entries).Nodup := by
  rw [insert, keys_replace]
  split
  · exact h
  · rename_i new
    exact List.nodup_append.mpr ⟨h, List.pairwise_singleton _ _, by
      rintro other mem _ last rfl
      exact new (List.mem_singleton.mp last ▸ mem)⟩

theorem mem_replace {entry : String × α} {entries : List (String × α)}
    (mem : entry ∈ replace key value entries) : entry = (key, value) ∨ entry ∈ entries := by
  induction entries with
  | nil => exact .inl (List.mem_singleton.mp mem)
  | cons first rest ih =>
    obtain ⟨k, old⟩ := first
    rw [replace] at mem
    split at mem
    · rename_i here
      subst here
      rcases List.mem_cons.mp mem with rfl | mem
      · exact .inl rfl
      · exact .inr (List.mem_cons_of_mem _ mem)
    · rcases List.mem_cons.mp mem with rfl | mem
      · exact .inr List.mem_cons_self
      · exact (ih mem).imp_right (List.mem_cons_of_mem _)

theorem replace_of_notMem {entries : List (String × α)} (new : key ∉ keys entries) :
    replace key value entries = entries ++ [(key, value)] := by
  induction entries with
  | nil => rfl
  | cons entry rest ih =>
    obtain ⟨k, old⟩ := entry
    rw [keys, List.map_cons, List.mem_cons, not_or] at new
    rw [replace, if_neg fun same => new.1 same.symm, ih new.2, List.cons_append]

end Table

/-! ## The document of the numbers -/

namespace Json

theorem isPlainText_ofString {name : String} (word : IsWord name) :
    IsPlainText (Utf8.ofString name) := by
  intro b mem
  obtain ⟨c, hc, mem⟩ := List.mem_flatMap.mp mem
  have char := (word c hc).toNat
  by_cases ascii : b.toNat < 128
  · have same := Utf8.mem_encodeChar mem ascii
    refine ⟨fun control => ?_, ?_, ?_⟩
    · have : b.toNat < 32 := UInt8.lt_iff_toNat_lt.mp control
      omega
    · rintro rfl
      exact absurd (same ▸ char.1) (by decide)
    · rintro rfl
      exact char.2 same
  · refine ⟨fun control => ?_, ?_, ?_⟩
    · have : b.toNat < 32 := UInt8.lt_iff_toNat_lt.mp control
      omega
    · rintro rfl
      exact ascii (by decide)
    · rintro rfl
      exact ascii (by decide)

theorem quote_plain {raw : Bytes} (plain : IsPlainText raw) : quote raw = raw := by
  induction raw with
  | nil => rfl
  | cons b raw ih =>
    obtain ⟨printable, no_quote, no_backslash⟩ := plain b List.mem_cons_self
    rw [quote, List.flatMap_cons, quoteByte, if_neg no_quote, if_neg no_backslash,
      if_neg printable]
    exact congrArg (b :: ·) (ih fun c hc => plain c (List.mem_cons_of_mem _ hc))

theorem unquote?_quote {name : String} (word : IsWord name) :
    (unquote? (quote (Utf8.ofString name))).bind Utf8.toString? = some name := by
  have plain := isPlainText_ofString word
  rw [quote_plain plain, unquote?, unescape?_plain plain]
  simp only [Utf8.ofString, Utf8.decode?_encode, Option.isSome_some, if_true, Option.bind_some]
  exact Utf8.toString?_ofString name

end Json

namespace DirectoryStore

/-- Numbers that can be written: each key stands once and is a name, and no number is wider than
eight bytes. -/
structure Sound (scalars : Table Nat) : Prop where
  distinct : (Table.keys scalars.entries).Nodup
  words : ∀ entry ∈ scalars.entries, IsWord entry.1
  narrow : ∀ entry ∈ scalars.entries, entry.2 < UInt64.size

theorem Sound.empty : Sound .empty :=
  ⟨List.nodup_nil, nofun, nofun⟩

theorem Sound.insert {scalars : Table Nat} (sound : Sound scalars) {key : String} {value : Nat}
    (word : IsWord key) (narrow : value < UInt64.size) : Sound (scalars.insert key value) where
  distinct := Table.nodup_keys_insert sound.distinct
  words entry mem := by
    rcases Table.mem_replace mem with rfl | mem
    · exact word
    · exact sound.words entry mem
  narrow entry mem := by
    rcases Table.mem_replace mem with rfl | mem
    · exact narrow
    · exact sound.narrow entry mem

theorem scalarsOfMembers?_written {entries known : List (String × Nat)}
    (sound : Sound ⟨known ++ entries⟩) :
    scalarsOfMembers? (entries.map fun (key, value) =>
      (Json.quote (Utf8.ofString key), .natural value)) ⟨known⟩ = some ⟨known ++ entries⟩ := by
  induction entries generalizing known with
  | nil => rw [List.map_nil, scalarsOfMembers?, List.append_nil]
  | cons entry entries ih =>
    obtain ⟨key, value⟩ := entry
    have mem : (key, value) ∈ known ++ (key, value) :: entries := by simp
    have new : key ∉ Table.keys known := by
      have distinct := sound.distinct
      rw [Table.keys, List.map_append, List.map_cons] at distinct
      exact fun known => (List.nodup_append.mp distinct).2.2 _ known _ List.mem_cons_self rfl
    have longer : known ++ (key, value) :: entries = (known ++ [(key, value)]) ++ entries := by
      rw [List.append_assoc, List.singleton_append]
    have small : Json.below? UInt64.size (some (.natural value)) = some value :=
      if_pos (sound.narrow _ mem)
    rw [longer] at sound ⊢
    rw [List.map_cons, scalarsOfMembers?, Json.unquote?_quote (sound.words (key, value) (by simp)),
      small]
    simp only [Table.insert, Table.replace_of_notMem new]
    exact ih sound

theorem havePlain_written : ∀ {entries : List (String × Nat)},
    (∀ entry ∈ entries, IsWord entry.1) → Json.HavePlain (entries.map fun (key, value) =>
      (Json.quote (Utf8.ofString key), .natural value))
  | [], _ => trivial
  | (key, value) :: entries, words => by
    have plain := Json.isPlainText_ofString (words (key, value) List.mem_cons_self)
    have rest := havePlain_written fun entry mem => words entry (List.mem_cons_of_mem _ mem)
    refine ⟨?_, trivial, rest⟩
    simpa only [Json.quote_plain plain] using plain

/-- The numbers are read back from the document that they are written as. -/
theorem scalarsOfText?_print {scalars : Table Nat} (sound : Sound scalars) :
    scalarsOfText? (Json.print (scalarsJson scalars)) = some scalars := by
  have plain : Json.IsPlain (scalarsJson scalars) := havePlain_written sound.words
  rw [scalarsOfText?, Json.parse?_print plain]
  have written : scalarsOfMembers? _ ⟨[]⟩ = some ⟨[] ++ scalars.entries⟩ :=
    scalarsOfMembers?_written sound
  exact written

end DirectoryStore

end PgpCard
