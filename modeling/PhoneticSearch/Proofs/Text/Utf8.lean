import PhoneticSearch.Files.Basic

/-!
# Files of ASCII characters

* `Utf8.decode_ascii`: a byte below 128 is a character by itself.
* `Files.readLossy_ascii`, `Files.readText_ascii`: a text of ASCII characters is read from its bytes.
-/

namespace PhoneticSearch

namespace Utf8

def isAscii (text : String) : Bool := text.toList.all fun c => c.toNat < 0x80

/-- The bytes of a text of ASCII characters. -/
def ascii (text : String) : List UInt8 := text.toList.map fun c => c.toNat.toUInt8

theorem decodeFrom_ready_cons {b : UInt8} (h : b < 0x80) (rest : List UInt8) :
    decodeFrom .ready (b :: rest) = some (Char.ofNat b.toNat) :: decodeFrom .ready rest := by
  rw [decodeFrom, decodeFrom.enter, if_pos h]

theorem decode_ascii {text : List Char} (h : ∀ c ∈ text, c.toNat < 0x80) :
    decode (text.map fun c => c.toNat.toUInt8) = text.map some := by
  induction text with
  | nil => rw [List.map_nil, List.map_nil, decode, decodeFrom]
  | cons c text ih =>
    have hrest := ih fun d hd => h d (List.mem_cons_of_mem _ hd)
    have hc : c.toNat < 0x80 := h c List.mem_cons_self
    have hbyte : c.toNat.toUInt8.toNat = c.toNat := by
      rw [Nat.toUInt8, UInt8.toNat_ofNat']
      omega
    have hlt : c.toNat.toUInt8 < 0x80 := by
      rw [UInt8.lt_iff_toNat_lt, hbyte]
      exact hc
    rw [decode] at hrest
    rw [decode, List.map_cons, List.map_cons, decodeFrom_ready_cons hlt, hbyte, hrest,
      Char.ofNat_toNat]

theorem lt_of_isAscii {text : String} (h : isAscii text = true) :
    ∀ c ∈ text.toList, c.toNat < 0x80 := by
  intro c hc
  exact of_decide_eq_true (List.all_eq_true.mp h c hc)

theorem decodeLossy_ascii {text : String} (h : isAscii text = true) :
    decodeLossy (ascii text) = text := by
  rw [decodeLossy, ascii, decode_ascii (lt_of_isAscii h), List.map_map]
  simp [Function.comp_def]

theorem decode?_ascii {text : String} (h : isAscii text = true) :
    decode? (ascii text) = some text := by
  have hall : (text.toList.map some).mapM id = some text.toList := by
    rw [List.mapM_map]
    exact List.mapM_pure.trans (by simp)
  rw [decode?, ascii, decode_ascii (lt_of_isAscii h), hall, Option.map_some, String.ofList_toList]

end Utf8

theorem Files.readLossy_ascii {files : Files} {path text : String} (h : Utf8.isAscii text = true)
    (hread : files.read path = .ok (Utf8.ascii text)) : files.readLossy path = .ok text := by
  rw [readLossy, hread]
  show Except.ok (Utf8.decodeLossy (Utf8.ascii text)) = _
  rw [Utf8.decodeLossy_ascii h]

theorem Files.readText_ascii {files : Files} {path text : String} (h : Utf8.isAscii text = true)
    (hread : files.read path = .ok (Utf8.ascii text)) : files.readText path = .ok text := by
  simp only [readText, hread, Utf8.decode?_ascii h]

end PhoneticSearch
