import Mathlib.Data.List.DropRight
import Mathlib.Data.Nat.Digits.Lemmas

/-! White space at the ends of a text, its words, lower case, decimals of a fixed
width, and texts that values can be read back from. -/
namespace NutOperator.Data

open List

structure Codec (α β : Type) where
  encode : α → β
  decode : β → Option α
  decode_encode : ∀ value, decode (encode value) = some value

attribute [simp] Codec.decode_encode

def isSpace (c : Char) : Bool :=
  let n := c.toNat
  (9 ≤ n && n ≤ 13) || n = 0x20 || n = 0x85 || n = 0xa0 || n = 0x1680 ||
    (0x2000 ≤ n && n ≤ 0x200a) || n = 0x2028 || n = 0x2029 || n = 0x202f || n = 0x205f ||
    n = 0x3000

def trimSpace (text : String) : String :=
  String.ofList ((text.toList.dropWhile isSpace).rdropWhile isSpace)

/-- Lower case of ASCII letters. Others, which the source maps too, are left alone. -/
def toLower (text : String) : String := String.ofList (text.toList.map Char.toLower)

def paddedDecimal (width value : Nat) : String :=
  String.ofList (replicate (width - (Nat.toDigits 10 value).length) '0' ++ Nat.toDigits 10 value)

example : trimSpace "\t rack a\n" = "rack a" ∧ toLower "OnBattery" = "onbattery" ∧
    paddedDecimal 3 7 = "007" := by decide

theorem trimSpace_eq_self {text : String} (hfirst : ∀ c ∈ text.toList.head?, isSpace c = false)
    (hlast : ∀ c ∈ text.toList.getLast?, isSpace c = false) : trimSpace text = text := by
  have hdrop : text.toList.dropWhile isSpace = text.toList := by
    rw [dropWhile_eq_self_iff]
    intro hlen
    have hhead : text.toList[0] ∈ text.toList.head? := by
      rw [head?_eq_getElem?]
      exact getElem?_eq_getElem hlen
    simp [hfirst _ hhead]
  have hrdrop : text.toList.rdropWhile isSpace = text.toList := by
    rw [rdropWhile_eq_self_iff]
    intro hne
    simp [hlast _ (getLast?_eq_some_getLast hne)]
  rw [trimSpace, hdrop, hrdrop, String.ofList_toList]

theorem head?_trimSpace (text : String) :
    ∀ c ∈ (trimSpace text).toList.head?, isSpace c = false := by
  intro c hc
  rw [trimSpace, String.toList_ofList] at hc
  obtain ⟨rest, hrest⟩ := rdropWhile_prefix isSpace (text.toList.dropWhile isSpace)
  have hhead : c ∈ (text.toList.dropWhile isSpace).head? := by
    rw [← hrest, head?_append]
    simp [Option.mem_def.mp hc]
  have hnot := head?_dropWhile_not isSpace text.toList
  rw [Option.mem_def.mp hhead] at hnot
  exact hnot

theorem getLast?_trimSpace (text : String) :
    ∀ c ∈ (trimSpace text).toList.getLast?, isSpace c = false := by
  intro c hc
  rw [trimSpace, String.toList_ofList] at hc
  obtain ⟨rest, hrest⟩ := getLast?_eq_some_iff.mp hc
  have hne : (text.toList.dropWhile isSpace).rdropWhile isSpace ≠ [] := by simp [hrest]
  have hlast := rdropWhile_last_not isSpace _ hne
  simpa [hrest] using hlast

@[simp] theorem trimSpace_trimSpace (text : String) : trimSpace (trimSpace text) = trimSpace text :=
  trimSpace_eq_self (head?_trimSpace text) (getLast?_trimSpace text)

theorem isSpace_of_printable {c : Char} (hlow : 32 < c.toNat) (hhigh : c.toNat < 128) :
    isSpace c = false := by
  simp only [isSpace, Bool.or_eq_false_iff, Bool.and_eq_false_iff, decide_eq_false_iff_not]
  omega

theorem isSpace_toLower (c : Char) : isSpace c.toLower = isSpace c := by
  delta Char.toLower
  split
  · rename_i hupper
    have hlow : 65 ≤ c.toNat := UInt32.le_iff_toNat_le.mp hupper.1
    have hhigh : c.toNat ≤ 90 := UInt32.le_iff_toNat_le.mp hupper.2
    have ho : ('a'.val - 'A'.val).toNat = 32 := by decide
    have hl : (c.val + ('a'.val - 'A'.val)).toNat = c.toNat + 32 := by
      rw [UInt32.toNat_add, ho]
      exact Nat.mod_eq_of_lt (show c.toNat + 32 < 2 ^ 32 by omega)
    rw [isSpace_of_printable (c := c) (by omega) (by omega)]
    apply isSpace_of_printable
    · show 32 < (c.val + ('a'.val - 'A'.val)).toNat
      omega
    · show (c.val + ('a'.val - 'A'.val)).toNat < 128
      omega
  · rfl

theorem getLast?_toLower {text : String} (h : ∀ c ∈ text.toList.getLast?, isSpace c = false) :
    ∀ c ∈ (toLower text).toList.getLast?, isSpace c = false := by
  intro c hc
  rw [toLower, String.toList_ofList, getLast?_map] at hc
  obtain ⟨original, ho, rfl⟩ := Option.map_eq_some_iff.mp hc
  rw [isSpace_toLower]
  exact h original ho

theorem ofDigitChars_paddedDecimal (width value : Nat) :
    Nat.ofDigitChars 10 (paddedDecimal width value).toList 0 = value := by
  rw [paddedDecimal, String.toList_ofList, Nat.ofDigitChars_append, Nat.ofDigitChars_replicate_zero]
  simp [Nat.ofDigitChars_ten_toDigits]

theorem paddedDecimal_inj {width first second : Nat}
    (h : paddedDecimal width first = paddedDecimal width second) : first = second := by
  rw [← ofDigitChars_paddedDecimal width first, h, ofDigitChars_paddedDecimal]

def signedDecimals : Codec Int String where
  encode := fun value =>
    String.ofList ((if value < 0 then '-' else '+') :: (paddedDecimal 0 value.natAbs).toList)
  decode := fun text =>
    match text.toList with
    | '-' :: digits => some (-(Nat.ofDigitChars 10 digits 0 : Int))
    | '+' :: digits => some (Nat.ofDigitChars 10 digits 0)
    | _ => none
  decode_encode := by
    intro value
    by_cases hnegative : value < 0
    · simp only [hnegative, if_true, String.toList_ofList, ofDigitChars_paddedDecimal]
      exact congrArg some (by omega)
    · simp only [hnegative, if_false, String.toList_ofList, ofDigitChars_paddedDecimal]
      exact congrArg some (by omega)

def readTexts : List Char → List Char → Option (List String)
  | _, [] => some []
  | read, ',' :: rest => (readTexts [] rest).map (String.ofList read.reverse :: ·)
  | read, '.' :: c :: rest => readTexts (c :: read) rest
  | _, _ => none

def writeText (text : String) : List Char := text.toList.flatMap (['.', ·]) ++ [',']

theorem readTexts_letters (read letters rest : List Char) :
    readTexts read (letters.flatMap (['.', ·]) ++ rest) =
      readTexts (letters.reverse ++ read) rest := by
  induction letters generalizing read with
  | nil => rfl
  | cons c letters ih =>
    simp only [flatMap_cons, cons_append, nil_append, readTexts, ih, reverse_cons, append_assoc]

def texts : Codec (List String) String where
  encode := fun values => String.ofList (values.flatMap writeText)
  decode := fun text => readTexts [] text.toList
  decode_encode := by
    intro values
    rw [String.toList_ofList]
    induction values with
    | nil => rfl
    | cons first rest ih =>
      rw [flatMap_cons, writeText, append_assoc, readTexts_letters]
      simp [readTexts, ih]

theorem isDigit_of_mem_paddedDecimal {width value : Nat} {c : Char}
    (h : c ∈ (paddedDecimal width value).toList) : c.isDigit = true := by
  rw [paddedDecimal, String.toList_ofList, mem_append] at h
  cases h with
  | inl hzero => rw [eq_of_mem_replicate hzero]; rfl
  | inr hdigit => exact Nat.isDigit_of_mem_toDigits (by omega) (le_refl 10) hdigit

def words (isSeparator : α → Bool) (values : List α) : List (List α) :=
  (values.splitOnP isSeparator).filter fun word => !word.isEmpty

def fields (text : String) : List String := (words isSpace text.toList).map String.ofList

example : fields " OL \t CHRG\n" = ["OL", "CHRG"] ∧ fields " \n" = [] := by decide

section

variable {isSeparator : α → Bool}

theorem words_append_separator {separator : α} (hsep : isSeparator separator = true)
    (left right : List α) :
    words isSeparator (left ++ separator :: right) =
      words isSeparator left ++ words isSeparator right := by
  rw [words, splitOnP_append_cons left right hsep, filter_append]
  rfl

theorem words_nil : words isSeparator [] = [] := by
  rw [words, splitOnP_nil]
  rfl

theorem words_dropWhile (values : List α) :
    words isSeparator (values.dropWhile isSeparator) = words isSeparator values := by
  induction values with
  | nil => rfl
  | cons value rest ih =>
    by_cases hsep : isSeparator value = true
    · rw [dropWhile_cons_of_pos hsep, ih]
      have hs := words_append_separator hsep [] rest
      rw [words_nil] at hs
      exact hs.symm
    · rw [dropWhile_cons_of_neg hsep]

theorem words_rdropWhile (values : List α) :
    words isSeparator (values.rdropWhile isSeparator) = words isSeparator values := by
  induction values using reverseRecOn with
  | nil => rfl
  | append_singleton earlier last ih =>
    by_cases hsep : isSeparator last = true
    · rw [rdropWhile_concat_pos _ _ _ hsep, ih,
        words_append_separator hsep earlier [], words_nil, append_nil]
    · rw [rdropWhile_concat_neg _ _ _ hsep]

end

theorem fields_trimSpace (text : String) : fields (trimSpace text) = fields text := by
  rw [fields, trimSpace, String.toList_ofList, words_rdropWhile, words_dropWhile, fields]

end NutOperator.Data
