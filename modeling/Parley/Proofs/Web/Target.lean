import Mathlib.Data.List.TakeDrop
import Parley.Proofs.Text.Split
import Parley.Proofs.Web.Percent
import Parley.Web.Route

/-!
# Plain addresses

An address that is only a path, of ASCII that is not told apart from other parts of an address, leads
to the usual server and to the path that its bytes spell. Any ASCII name can be put into such an
address if it is quoted.
-/

namespace Parley.Web

open Text

/-- A character that stands in a path for itself, a slash, or a percent sign. -/
def isPathChar (c : Char) : Bool := Percent.isPlain c || c == '/' || c == '%'

/-- The characters of an address that is only a path. Two slashes at its front would be an
authority's. -/
def IsPlainAddress (cs : List Char) : Prop :=
  cs.head? = some '/' ∧ cs[1]? ≠ some '/' ∧ cs.all isPathChar = true

instance : DecidablePred IsPlainAddress := fun _ => inferInstanceAs (Decidable (_ ∧ _ ∧ _))

theorem toNat_of_isPathChar {c : Char} (h : isPathChar c = true) :
    0x20 < c.toNat ∧ c.toNat < 0x80 := by
  simp only [isPathChar, Percent.isPlain, Bool.or_eq_true, beq_iff_eq, List.contains_eq_mem,
    decide_eq_true_eq] at h
  obtain ((h | h) | rfl) | rfl := h
  · exact toNat_of_isAlphanum h
  · have hmarks : "_.-~".toList = ['_', '.', '-', '~'] := rfl
    simp only [hmarks, List.mem_cons, List.not_mem_nil, or_false] at h
    obtain rfl | rfl | rfl | rfl := h <;> decide
  · decide
  · decide

theorem ne_of_isPathChar {c d : Char} (h : isPathChar c = true) (hd : isPathChar d = false) :
    c ≠ d := by
  rintro rfl
  rw [h] at hd
  cases hd

namespace IsPlainAddress

variable {cs : List Char}

theorem isPathChar_of_mem (h : IsPlainAddress cs) {c : Char} (hc : c ∈ cs) : isPathChar c = true :=
  List.all_eq_true.mp h.2.2 c hc

theorem ascii (h : IsPlainAddress cs) : IsAscii cs :=
  fun _ hc => (toNat_of_isPathChar (h.isPathChar_of_mem hc)).2

theorem takeWhile_ne (h : IsPlainAddress cs) {d : Char} (hd : isPathChar d = false) :
    cs.takeWhile (· != d) = cs :=
  List.takeWhile_eq_self_iff.mpr fun _ hc =>
    bne_iff_ne.mpr (ne_of_isPathChar (h.isPathChar_of_mem hc) hd)

theorem read (h : IsPlainAddress cs) : Address.read cs = .ok ⟨[], [], cs, []⟩ := by
  obtain ⟨rest, rfl⟩ := List.head?_eq_some_iff.mp h.1
  have hdrop : (('/' :: rest).dropWhile fun c => c.toNat ≤ 0x20) = '/' :: rest :=
    List.dropWhile_cons_of_neg (by decide)
  have hfilter : ('/' :: rest).filter (!Address.isDropped ·) = '/' :: rest := by
    refine List.filter_eq_self.mpr fun c hc => ?_
    have hc := h.isPathChar_of_mem hc
    simp [Address.isDropped, ne_of_isPathChar hc (d := '\t') (by decide),
      ne_of_isPathChar hc (d := '\n') (by decide), ne_of_isPathChar hc (d := '\r') (by decide)]
  have hscheme : Address.splitScheme ('/' :: rest) = ([], '/' :: rest) := by
    rw [Address.splitScheme, h.takeWhile_ne (by decide), List.drop_length]
  have hauthority : Address.splitAuthority ('/' :: rest) = ([], '/' :: rest) := by
    rw [Address.splitAuthority]
    rintro others hothers
    obtain rfl := (List.cons.inj hothers).2
    exact absurd rfl h.2.1
  have hcheck : Authority.check [] = .ok () := by decide
  have hquery : ('/' :: rest).span (· != '?') = ('/' :: rest, []) := by
    rw [List.span_eq_takeWhile_dropWhile, h.takeWhile_ne (by decide), Prod.mk.injEq]
    refine ⟨rfl, List.dropWhile_eq_nil_iff.mpr fun c hc => ?_⟩
    exact bne_iff_ne.mpr (ne_of_isPathChar (h.isPathChar_of_mem hc) (by decide))
  rw [Address.read, hdrop, hfilter, hscheme]
  simp only [hauthority, hcheck, h.takeWhile_ne (d := '#') (by decide), hquery]
  rfl

theorem wireBytes (h : IsPlainAddress cs) : Address.wireBytes cs = .ok (asciiBytes cs) := by
  have hauthority : (Authority.ofText []).wireForm = .ok [] := by decide +kernel
  rw [Address.wireBytes, h.read]
  simp only [bind, Except.bind, encodeUtf8_of_ascii h.ascii, hauthority]
  rfl

end IsPlainAddress

/-- A plain address leads to its path on the usual server, unless what the request carries cannot be
sent. -/
theorem Target.read_plain {address : String} (h : IsPlainAddress address.toList)
    (content : Content) :
    read address content = content.check.map fun _ =>
      ⟨false, true, pathOf (asciiBytes address.toList)⟩ := by
  have hserver : serverOf usualScheme [] = .ok usualAuthority := by decide +kernel
  have hshown : checkShown usualAuthority = .ok () := by decide +kernel
  have hsocket : socketSchemes.contains usualScheme = false := by decide
  have hreachable : Authority.isServer usualAuthority = true := by decide
  have hrequest : (⟨[], [], address.toList, []⟩ : Address).request = address.toList := by
    simp [Address.request]
  rw [read, h.read]
  simp only [bind, Except.bind, List.isEmpty_nil, if_true, hrequest, h.read, h.wireBytes, hserver,
    encodeUtf8_of_ascii h.ascii, hshown, hsocket, hreachable]
  cases content.check <;> rfl

theorem Target.pathOf_of_ascii {cs : List Char} {bytes : List UInt8} (h : IsAscii cs)
    (hbytes : Percent.decode bytes = asciiBytes cs) : pathOf bytes = cs := by
  rw [pathOf, hbytes, decodeReplacing, decodeMending_of_ok (decodeFrom_of_ascii h 0 []),
    List.reverse_nil, List.nil_append, ofCodePoints_of_ascii h]

def documentAddress (quoted : List Char) : String := "/dialogue/" ++ String.ofList quoted ++ ".json"

/-- An id that is a part of one name in a path. -/
structure NameId (id : String) : Prop where
  nonempty : id ≠ ""
  ascii : IsAscii id.toList
  no_slash : '/' ∉ id.toList

namespace NameId

variable {id : String}

theorem ofPath? (h : NameId id) :
    Endpoint.ofPath? ("/dialogue/" ++ id ++ ".json").toList = some (.document id) := by
  have hpath : ("/dialogue/" ++ id ++ ".json").toList =
      '/' :: ("dialogue".toList ++ '/' :: (id ++ ".json").toList) := by
    simp [String.toList_append]
  have hname : '/' ∉ (id ++ ".json").toList := by
    rw [String.toList_append, List.mem_append, not_or]
    exact ⟨h.no_slash, by decide⟩
  have hsegments : segments ("/dialogue/" ++ id ++ ".json").toList =
      ["dialogue".toList, (id ++ ".json").toList] := by
    have hdrop : ('/' :: ("dialogue".toList ++ '/' :: (id ++ ".json").toList)).dropWhile (· == '/') =
        "dialogue".toList ++ '/' :: (id ++ ".json").toList := rfl
    rw [segments, hpath, hdrop, pieces_eq_splitOn,
      List.splitOn_append_cons_self_of_not_mem (by decide), List.splitOn_eq_singleton hname]
  rw [Endpoint.ofPath?, hsegments, List.map_cons, List.map_singleton, String.ofList_toList,
    String.ofList_toList]
  simp [Endpoint.ofSegments?, Endpoint.documentId?_append id h.nonempty]

theorem read_documentAddress (h : NameId id) :
    ∃ quoted, Percent.quote [] id.toList = .ok quoted ∧ ∀ content,
      Target.read (documentAddress quoted) content = content.check.map fun _ =>
        ⟨false, true, ("/dialogue/" ++ id ++ ".json").toList⟩ := by
  refine ⟨_, Percent.quote_of_ascii h.ascii, fun content => ?_⟩
  generalize hquoted : (asciiBytes id.toList).flatMap (Percent.quoteByte []) = quoted
  have hplain : quoted.all isPathChar = true := by
    rw [List.all_eq_true]
    intro c hc
    rw [← hquoted] at hc
    obtain hc | rfl | hc := Percent.mem_quoted hc
    · simp [isPathChar, hc]
    · rfl
    · cases hc
  have htext : (documentAddress quoted).toList =
      "/dialogue/".toList ++ (quoted ++ ".json".toList) := by
    simp [documentAddress]
  have haddress : IsPlainAddress (documentAddress quoted).toList := by
    have hfront : "/dialogue/".toList.all isPathChar = true := by decide
    have hend : ".json".toList.all isPathChar = true := by decide
    rw [htext]
    refine ⟨rfl, by simp, ?_⟩
    rw [List.all_append, List.all_append, hfront, hplain, hend]
    rfl
  have hascii : IsAscii ("/dialogue/" ++ id ++ ".json").toList := by
    rw [String.toList_append, String.toList_append]
    have hfront : IsAscii "/dialogue/".toList := by decide
    exact (hfront.append h.ascii).append (by decide)
  have hbytes : Percent.decode (asciiBytes (documentAddress quoted).toList) =
      asciiBytes ("/dialogue/" ++ id ++ ".json").toList := by
    have hfront : Percent.percentByte ∉ asciiBytes "/dialogue/".toList := by decide
    have hend : Percent.decode (asciiBytes ".json".toList) = asciiBytes ".json".toList := by decide
    rw [htext, asciiBytes_append, asciiBytes_append, Percent.decode_append_of_no_percent hfront,
      ← hquoted, Percent.decode_quoted_append (by simp), hend]
    rw [String.toList_append, String.toList_append, asciiBytes_append, asciiBytes_append,
      List.append_assoc]
  rw [Target.read_plain haddress, Target.pathOf_of_ascii hascii hbytes]

end NameId

end Parley.Web
