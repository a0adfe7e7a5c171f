/-
Addresses as the standard library prints them, the scope of an IPv6 address included: a printed address is the text
of one address only.
-/
import NodeX.Core.Net
import NodeX.Lib.Text

namespace NodeX

open NodeX.Lib

/-! ## The parts -/

theorem toList_toString (n : Nat) : (toString n).toList = Nat.toDigits 10 n := Nat.toList_repr

theorem toString_inj {m n : Nat} (h : toString m = toString n) : m = n := by
  refine toDigits_inj (b := 10) (by decide) (by decide) ?_
  rw [← toList_toString, h, toList_toString]

/-- What is no digit stands in no printed number. -/
theorem not_mem_toString {c : Char} (hc : ∀ d : Fin 16, Nat.digitChar d ≠ c) (n : Nat) : c ∉ (toString n).toList := by
  rw [toList_toString]
  exact not_mem_toDigits (by decide) (by decide) hc n

namespace IpAddr

def octetChars (o : Vector UInt8 4) : List (List Char) := o.toList.map fun b => (toString b.toNat).toList

theorem toList_dotted (o : Vector UInt8 4) : (dotted o).toList = ['.'].intercalate (octetChars o) := by
  unfold dotted octetChars
  rw [String.toList_intercalate, List.map_map]
  rfl

theorem not_mem_octetChars {c : Char} (hc : ∀ d : Fin 16, Nat.digitChar d ≠ c) (o : Vector UInt8 4) :
    ∀ s ∈ octetChars o, c ∉ s := by
  intro s hs
  obtain ⟨b, -, rfl⟩ := List.mem_map.1 hs
  exact not_mem_toString hc b.toNat

theorem dotted_inj {o p : Vector UInt8 4} (h : dotted o = dotted p) : o = p := by
  have hne : ∀ q : Vector UInt8 4, octetChars q ≠ [] := by
    intro q hq
    have hlen := congrArg List.length hq
    simp [octetChars] at hlen
  have hdot : ∀ d : Fin 16, Nat.digitChar d ≠ '.' := by decide
  have hchars : octetChars o = octetChars p := by
    refine intercalate_inj (not_mem_octetChars hdot o) (not_mem_octetChars hdot p) (hne o) (hne p) ?_
    rw [← toList_dotted, h, toList_dotted]
  have hlist : o.toList = p.toList := by
    refine List.map_injective_iff.2 (fun b b' hb => ?_) hchars
    exact UInt8.toNat_inj.1 (toString_inj (String.toList_inj.1 hb))
  exact Vector.toList_inj.1 hlist

theorem not_mem_dotted {c : Char} (hc : ∀ d : Fin 16, Nat.digitChar d ≠ c) (hdot : c ≠ '.') (o : Vector UInt8 4) :
    c ∉ (dotted o).toList := by
  rw [toList_dotted]
  intro h
  rcases mem_intercalate h with rfl | ⟨s, hs, h⟩
  · exact hdot rfl
  · exact not_mem_octetChars hc o s hs h

/-! ## Groups of an IPv6 address -/

theorem length_segments (o : Vector UInt8 16) : (segments o).length = 8 := by simp [segments]

/-- The octets are known by the groups. -/
theorem segments_inj {o p : Vector UInt8 16} (h : segments o = segments p) : o = p := by
  have hgroup : ∀ i : Fin 8, o[2 * i.val] = p[2 * i.val] ∧ o[2 * i.val + 1] = p[2 * i.val + 1] := by
    intro i
    have hi := congrArg (·[i.val]?) h
    have hhigh : 2 * i.val < 16 := by omega
    have hlow : 2 * i.val + 1 < 16 := by omega
    simp only [segments, List.getElem?_map, List.getElem?_range i.isLt, Option.map_some, Option.some.injEq,
      Vector.getElem?_eq_getElem hhigh, Vector.getElem?_eq_getElem hlow, Option.getD_some] at hi
    have ho := o[2 * i.val + 1].toNat_lt
    have hp := p[2 * i.val + 1].toNat_lt
    exact ⟨UInt8.toNat_inj.1 (by omega), UInt8.toNat_inj.1 (by omega)⟩
  refine Vector.ext fun i hi => ?_
  obtain ⟨heven, hodd⟩ := hgroup ⟨i / 2, by omega⟩
  rcases Nat.mod_two_eq_zero_or_one i with hmod | hmod
  · have hi' : 2 * (i / 2) = i := by omega
    simpa only [hi'] using heven
  · have hi' : 2 * (i / 2) + 1 = i := by omega
    simpa only [hi'] using hodd

def groupChars (groups : List Nat) : List (List Char) := groups.map (Nat.toDigits 16)

theorem toList_groupsText (groups : List Nat) : (groupsText groups).toList = [':'].intercalate (groupChars groups) := by
  unfold groupsText groupChars
  rw [String.toList_intercalate, List.map_map]
  congr 2
  funext g
  exact String.toList_ofList ..

theorem not_mem_groupChars {c : Char} (hc : ∀ d : Fin 16, Nat.digitChar d ≠ c) (groups : List Nat) :
    ∀ s ∈ groupChars groups, c ∉ s := by
  intro s hs
  obtain ⟨g, -, rfl⟩ := List.mem_map.1 hs
  exact not_mem_toDigits (by decide) (by decide) hc g

theorem groupChars_ne_nil (groups : List Nat) : ∀ s ∈ groupChars groups, s ≠ [] := by
  intro s hs
  obtain ⟨g, -, rfl⟩ := List.mem_map.1 hs
  exact Nat.toDigits_ne_nil

theorem groupChars_inj {groups groups' : List Nat} (h : groupChars groups = groupChars groups') : groups = groups' :=
  List.map_injective_iff.2 (fun _ _ hg => toDigits_inj (by decide) (by decide) hg) h

/-- All groups of the span are zero. -/
def ZeroSpan (groups : List Nat) (span : Nat × Nat) : Prop :=
  ∀ j, span.1 ≤ j → j < span.1 + span.2 → groups[j]? = some 0

/-- A run that ends before a zero group is continued with it. -/
theorem ZeroSpan.extend {groups : List Nat} {i : Nat} {run : Nat × Nat} (h : ZeroSpan groups run)
    (hend : run.2 = 0 ∨ run.1 + run.2 = i) (hi : groups[i]? = some 0) :
    ZeroSpan groups (if run.2 = 0 then (i, 1) else (run.1, run.2 + 1)) := by
  split
  · intro j hj hj'
    obtain rfl : j = i := by simp only at hj hj'; omega
    exact hi
  · rename_i hrun
    intro j hj hj'
    simp only at hj hj'
    rcases Nat.lt_or_ge j (run.1 + run.2) with hlt | hge
    · exact h j hj hlt
    · obtain rfl : j = i := by omega
      exact hi

theorem ZeroSpan.either {groups : List Nat} {a b : Nat × Nat} {P : Prop} [Decidable P] (ha : ZeroSpan groups a)
    (hb : ZeroSpan groups b) : ZeroSpan groups (if P then a else b) := by
  split
  · exact ha
  · exact hb

/-- The span found is one of zeros: by induction on the groups left, of which the run ends before the first. -/
theorem zeroSpan_spec (groups : List Nat) : ∀ (rest : List Nat) (i : Nat) (run best : Nat × Nat),
    groups.drop i = rest → ZeroSpan groups run → (run.2 = 0 ∨ run.1 + run.2 = i) → ZeroSpan groups best →
      ZeroSpan groups (zeroSpan rest i run best)
  | [], _, _, _, _, _, _, hbest => hbest
  | 0 :: rest, i, run, best, hrest, hrun, hend, hbest => by
    have hi : groups[i]? = some 0 := by rw [← List.head?_drop, hrest]; rfl
    have hdrop : groups.drop (i + 1) = rest := by rw [← List.tail_drop, hrest]; rfl
    have hrun' := hrun.extend hend hi
    have hend' : (if run.2 = 0 then (i, 1) else (run.1, run.2 + 1)).1 +
        (if run.2 = 0 then (i, 1) else (run.1, run.2 + 1)).2 = i + 1 := by
      split
      · rfl
      · simp only
        omega
    rw [zeroSpan]
    exact zeroSpan_spec groups rest (i + 1) _ _ hdrop hrun' (.inr hend') (hrun'.either hbest)
  | (g + 1) :: rest, i, run, best, hrest, hrun, hend, hbest => by
    have hdrop : groups.drop (i + 1) = rest := by rw [← List.tail_drop, hrest]; rfl
    have hempty : ZeroSpan groups (0, 0) := by
      intro j _ hj
      simp at hj
    exact zeroSpan_spec groups rest (i + 1) (0, 0) best hdrop hempty (.inl rfl) hbest

/-- The longest run of zero groups, as the address is printed. -/
def gap (groups : List Nat) : Nat × Nat := zeroSpan groups 0 (0, 0) (0, 0)

theorem zeroSpan_gap (groups : List Nat) : ZeroSpan groups (gap groups) := by
  have hempty : ZeroSpan groups (0, 0) := by
    intro j _ hj
    simp at hj
  exact zeroSpan_spec groups groups 0 (0, 0) (0, 0) rfl hempty (.inl rfl) hempty

/-- The groups beside the gap, and as many zeros as there are groups missing. -/
theorem fill_gap {groups : List Nat} {span : Nat × Nat} (hspan : ZeroSpan groups span) (hpos : 0 < span.2) :
    groups = groups.take span.1 ++
      List.replicate (groups.length - (groups.take span.1).length - (groups.drop (span.1 + span.2)).length) 0 ++
        groups.drop (span.1 + span.2) := by
  have hlast := hspan (span.1 + span.2 - 1) (by omega) (by omega)
  have hlen : span.1 + span.2 ≤ groups.length := by
    have hlt := (List.getElem?_eq_some_iff.1 hlast).1
    omega
  have hcount : groups.length - (groups.take span.1).length - (groups.drop (span.1 + span.2)).length = span.2 := by
    rw [List.length_take, List.length_drop]
    omega
  have hzeros : (groups.drop span.1).take span.2 = List.replicate span.2 0 := by
    refine List.ext_getElem? fun k => ?_
    rcases Nat.lt_or_ge k span.2 with hk | hk
    · rw [List.getElem?_take_of_lt hk, List.getElem?_drop, hspan (span.1 + k) (by omega) (by omega),
        List.getElem?_replicate_of_lt hk]
    · rw [List.getElem?_eq_none (by simp; omega), List.getElem?_eq_none (by simpa using hk)]
  rw [hcount, ← hzeros, List.append_assoc, ← List.drop_drop, List.take_append_drop, List.take_append_drop]

/-- The text of the groups, with the gap where there is one. -/
def compressed (groups : List Nat) : String :=
  if (gap groups).2 > 1 then
    groupsText (groups.take (gap groups).1) ++ "::" ++ groupsText (groups.drop ((gap groups).1 + (gap groups).2))
  else groupsText groups

/-- The pieces between the colons. -/
def pieces (groups : List Nat) : List (List Char) :=
  if (gap groups).2 > 1 then
    gapped (groupChars (groups.take (gap groups).1)) (groupChars (groups.drop ((gap groups).1 + (gap groups).2)))
  else groupChars groups

theorem toList_compressed (groups : List Nat) : (compressed groups).toList = [':'].intercalate (pieces groups) := by
  unfold compressed pieces
  split
  · rw [intercalate_gapped, String.toList_append, String.toList_append, toList_groupsText, toList_groupsText]
    rfl
  · exact toList_groupsText groups

theorem not_mem_pieces {c : Char} (hc : ∀ d : Fin 16, Nat.digitChar d ≠ c) (groups : List Nat) :
    ∀ s ∈ pieces groups, c ∉ s := by
  intro s hs
  have hpadded : ∀ gs, s ∈ padded (groupChars gs) → c ∉ s := by
    intro gs hs
    unfold padded at hs
    split at hs
    · rw [List.mem_singleton.1 hs]
      exact List.not_mem_nil
    · exact not_mem_groupChars hc gs s hs
  unfold pieces gapped at hs
  split at hs
  · rcases List.mem_append.1 hs with hs | hs
    · exact hpadded _ hs
    · rcases List.mem_cons.1 hs with rfl | hs
      · exact List.not_mem_nil
      · exact hpadded _ hs
  · exact not_mem_groupChars hc groups s hs

/-- Eight groups are known by the pieces they are printed as. -/
theorem pieces_inj {groups groups' : List Nat} (hlen : groups.length = 8) (hlen' : groups'.length = 8)
    (h : pieces groups = pieces groups') : groups = groups' := by
  unfold pieces at h
  split at h
  · rename_i hgap
    split at h
    · rename_i hgap'
      obtain ⟨hfront, hback⟩ := gapped_inj (groupChars_ne_nil _) (groupChars_ne_nil _) (groupChars_ne_nil _)
        (groupChars_ne_nil _) h
      rw [fill_gap (zeroSpan_gap groups) (by omega), fill_gap (zeroSpan_gap groups') (by omega),
        groupChars_inj hfront, groupChars_inj hback, hlen, hlen']
    · exact absurd rfl (groupChars_ne_nil groups' [] (h ▸ nil_mem_gapped _ _))
  · split at h
    · exact absurd rfl (groupChars_ne_nil groups [] (h.symm ▸ nil_mem_gapped _ _))
    · exact groupChars_inj h

theorem pieces_ne_nil {groups : List Nat} (hlen : groups.length = 8) : pieces groups ≠ [] := by
  unfold pieces
  split
  · simp [gapped]
  · intro h
    have hnil := congrArg List.length h
    simp [groupChars, hlen] at hnil

theorem compressed_inj {groups groups' : List Nat} (hlen : groups.length = 8) (hlen' : groups'.length = 8)
    (h : compressed groups = compressed groups') : groups = groups' := by
  have hcolon : ∀ d : Fin 16, Nat.digitChar d ≠ ':' := by decide
  refine pieces_inj hlen hlen' (intercalate_inj (not_mem_pieces hcolon groups) (not_mem_pieces hcolon groups')
    (pieces_ne_nil hlen) (pieces_ne_nil hlen') ?_)
  rw [← toList_compressed, h, toList_compressed]

theorem not_mem_compressed {c : Char} (hc : ∀ d : Fin 16, Nat.digitChar d ≠ c) (hcolon : c ≠ ':')
    (groups : List Nat) : c ∉ (compressed groups).toList := by
  rw [toList_compressed]
  intro h
  rcases mem_intercalate h with rfl | ⟨s, hs, h⟩
  · exact hcolon rfl
  · exact not_mem_pieces hc groups s hs h

/-! ## Printed addresses -/

theorem display_v6 (o : Vector UInt8 16) : (v6 o).display =
    if (segments o).take 6 = [0, 0, 0, 0, 0, 0xffff] then "::ffff:" ++ dotted (o.drop 12)
    else compressed (segments o) := rfl

theorem dot_mem_dotted (o : Vector UInt8 4) : '.' ∈ (dotted o).toList := by
  have hlen : (octetChars o).length = 4 := by simp [octetChars]
  rw [toList_dotted]
  cases hchars : octetChars o with
  | nil => simp [hchars] at hlen
  | cons s l =>
    cases l with
    | nil => simp [hchars] at hlen
    | cons t l => simp [List.intercalate_cons_cons]

/-- The last two groups are the octets of the IPv4 address that is mapped. -/
theorem drop_segments (o : Vector UInt8 16) : (segments o).drop 6 =
    [(o.drop 12)[0].toNat * 256 + (o.drop 12)[1].toNat, (o.drop 12)[2].toNat * 256 + (o.drop 12)[3].toNat] := by
  simp only [Vector.getElem_drop]
  rfl

/-- Only an address that maps an IPv4 address is printed with dots. -/
theorem mapped_ne_compressed (o : Vector UInt8 4) (groups : List Nat) : "::ffff:" ++ dotted o ≠ compressed groups := by
  intro h
  refine not_mem_compressed (c := '.') (by decide) (by decide) groups ?_
  rw [← h, String.toList_append]
  exact List.mem_append_right _ (dot_mem_dotted o)

theorem display_v6_inj {o p : Vector UInt8 16} (h : (v6 o).display = (v6 p).display) : o = p := by
  rw [display_v6, display_v6] at h
  refine segments_inj ?_
  split at h
  · rename_i ho
    split at h
    · rename_i hp
      have hchars := congrArg String.toList h
      rw [String.toList_append, String.toList_append] at hchars
      have hlast := dotted_inj (String.toList_inj.1 (List.append_cancel_left hchars))
      rw [← List.take_append_drop 6 (segments o), ← List.take_append_drop 6 (segments p), ho, hp, drop_segments,
        drop_segments, hlast]
    · exact absurd h (mapped_ne_compressed _ _)
  · split at h
    · exact absurd h.symm (mapped_ne_compressed _ _)
    · exact compressed_inj (length_segments o) (length_segments p) h

/-- An IPv6 address is printed with digits, colons and dots only. -/
theorem not_mem_display_v6 {c : Char} (hc : ∀ d : Fin 16, Nat.digitChar d ≠ c) (hcolon : c ≠ ':') (hdot : c ≠ '.')
    (o : Vector UInt8 16) : c ∉ (v6 o).display.toList := by
  rw [display_v6]
  split
  · rw [String.toList_append]
    intro h
    rcases List.mem_append.1 h with h | h
    · have hchars : "::ffff:".toList = [':', ':', 'f', 'f', 'f', 'f', ':'] := rfl
      have hf : c ≠ 'f' := fun heq => hc 15 heq.symm
      rw [hchars] at h
      simp [hcolon, hf] at h
    · exact not_mem_dotted hc hdot _ h
  · exact not_mem_compressed hc hcolon _

end IpAddr

/-! ## Socket addresses of the standard library -/

/-- `std::net::SocketAddr`, with the flow information and the scope of an IPv6 address. -/
inductive StdSocketAddr where
  | v4 (octets : Vector UInt8 4) (port : UInt16)
  | v6 (octets : Vector UInt8 16) (port : UInt16) (flowinfo scopeId : UInt32)
deriving DecidableEq

namespace StdSocketAddr

/-- `Display`; the flow information is not printed. -/
def display : StdSocketAddr → String
  | v4 o port => IpAddr.dotted o ++ ":" ++ toString port.toNat
  | v6 o port _ scopeId =>
    if scopeId = 0 then "[" ++ (IpAddr.v6 o).display ++ "]:" ++ toString port.toNat
    else "[" ++ (IpAddr.v6 o).display ++ "%" ++ toString scopeId.toNat ++ "]:" ++ toString port.toNat

/-- What `FromStr` makes has no flow information. -/
def IsParsed : StdSocketAddr → Prop
  | v4 _ _ => True
  | v6 _ _ flowinfo _ => flowinfo = 0

instance IsParsed.decidable : ∀ a : StdSocketAddr, Decidable a.IsParsed
  | v4 _ _ => isTrue trivial
  | v6 _ _ flowinfo _ => inferInstanceAs (Decidable (flowinfo = 0))

theorem toNat_toString_inj {p q : UInt16} (h : (toString p.toNat).toList = (toString q.toNat).toList) : p = q :=
  UInt16.toNat_inj.1 (toString_inj (String.toList_inj.1 h))

/-- What stands between the brackets. -/
def host (o : Vector UInt8 16) (scopeId : UInt32) : List Char :=
  (IpAddr.v6 o).display.toList ++ if scopeId = 0 then [] else '%' :: (toString scopeId.toNat).toList

theorem toList_display_v4 (o : Vector UInt8 4) (port : UInt16) :
    (v4 o port).display.toList = (IpAddr.dotted o).toList ++ ':' :: (toString port.toNat).toList := by
  simp [display]

theorem toList_display_v6 (o : Vector UInt8 16) (port : UInt16) (flowinfo scopeId : UInt32) :
    (v6 o port flowinfo scopeId).display.toList =
      '[' :: (host o scopeId ++ ']' :: ':' :: (toString port.toNat).toList) := by
  unfold host
  by_cases hs : scopeId = 0
  · simp [display, hs]
  · simp [display, hs]

theorem host_inj {o p : Vector UInt8 16} {s t : UInt32} (h : host o s = host p t) : o = p ∧ s = t := by
  have hpercent : ∀ q : Vector UInt8 16, '%' ∉ (IpAddr.v6 q).display.toList := fun q =>
    IpAddr.not_mem_display_v6 (by decide) (by decide) (by decide) q
  unfold host at h
  split at h
  · rename_i hs
    split at h
    · rename_i ht
      rw [List.append_nil, List.append_nil] at h
      exact ⟨IpAddr.display_v6_inj (String.toList_inj.1 h), hs.trans ht.symm⟩
    · rw [List.append_nil] at h
      exact absurd (h ▸ List.mem_append_right _ List.mem_cons_self) (hpercent o)
  · split at h
    · rw [List.append_nil] at h
      exact absurd (h ▸ List.mem_append_right _ List.mem_cons_self) (hpercent p)
    · obtain ⟨hip, hscope⟩ := append_cons_inj (hpercent o) (hpercent p) h
      exact ⟨IpAddr.display_v6_inj (String.toList_inj.1 hip),
        UInt32.toNat_inj.1 (toString_inj (String.toList_inj.1 hscope))⟩

theorem not_mem_host {c : Char} (hc : ∀ d : Fin 16, Nat.digitChar d ≠ c) (hcolon : c ≠ ':') (hdot : c ≠ '.')
    (hpercent : c ≠ '%') (o : Vector UInt8 16) (s : UInt32) : c ∉ host o s := by
  unfold host
  intro h
  rcases List.mem_append.1 h with h | h
  · exact IpAddr.not_mem_display_v6 hc hcolon hdot o h
  · split at h
    · cases h
    · rcases List.mem_cons.1 h with rfl | h
      · exact hpercent rfl
      · exact not_mem_toString hc _ h

/-- An IPv4 address does not start with a bracket. -/
theorem bracket_ne (o : Vector UInt8 4) (r r' : List Char) : (IpAddr.dotted o).toList ++ r ≠ '[' :: r' := by
  have hbracket : '[' ∉ (IpAddr.dotted o).toList := IpAddr.not_mem_dotted (by decide) (by decide) o
  have hdot := IpAddr.dot_mem_dotted o
  intro h
  cases hchars : (IpAddr.dotted o).toList with
  | nil => simp [hchars] at hdot
  | cons c l =>
    rw [hchars, List.cons_append, List.cons.injEq] at h
    rw [hchars, h.1] at hbracket
    exact hbracket List.mem_cons_self

/-- A printed address that was parsed is the text of that address only. -/
theorem display_inj {a b : StdSocketAddr} (ha : a.IsParsed) (hb : b.IsParsed) (h : a.display = b.display) : a = b := by
  have hchars := congrArg String.toList h
  cases a with
  | v4 o port =>
    cases b with
    | v4 p port' =>
      rw [toList_display_v4, toList_display_v4] at hchars
      have hcolon : ∀ q : Vector UInt8 4, ':' ∉ (IpAddr.dotted q).toList := fun q =>
        IpAddr.not_mem_dotted (by decide) (by decide) q
      obtain ⟨hip, hport⟩ := append_cons_inj (hcolon o) (hcolon p) hchars
      rw [IpAddr.dotted_inj (String.toList_inj.1 hip), toNat_toString_inj hport]
    | v6 p port' flowinfo scopeId =>
      rw [toList_display_v4, toList_display_v6] at hchars
      exact absurd hchars (bracket_ne o _ _)
  | v6 o port flowinfo scopeId =>
    cases b with
    | v4 p port' =>
      rw [toList_display_v4, toList_display_v6] at hchars
      exact absurd hchars.symm (bracket_ne p _ _)
    | v6 p port' flowinfo' scopeId' =>
      rw [toList_display_v6, toList_display_v6] at hchars
      have hbracket : ∀ (q : Vector UInt8 16) (s : UInt32), ']' ∉ host q s := fun q s =>
        not_mem_host (by decide) (by decide) (by decide) (by decide) q s
      obtain ⟨hhost, hport⟩ := append_cons_inj (hbracket o _) (hbracket p _) (List.cons.inj hchars).2
      obtain ⟨rfl, rfl⟩ := host_inj hhost
      rw [show flowinfo = 0 from ha, show flowinfo' = 0 from hb, toNat_toString_inj (List.cons.inj hport).2]

/-- Address and port alone. -/
def plain : StdSocketAddr → SocketAddr
  | v4 o port => { ip := .v4 o, port }
  | v6 o port _ _ => { ip := .v6 o, port }

def scopeId : StdSocketAddr → UInt32
  | v4 _ _ => 0
  | v6 _ _ _ scopeId => scopeId

/-- Without a scope an address is printed as its address and port are. -/
theorem display_plain {a : StdSocketAddr} (h : a.scopeId = 0) : a.plain.display = a.display := by
  cases a with
  | v4 o port => rfl
  | v6 o port flowinfo s =>
    obtain rfl : s = 0 := h
    rfl

end StdSocketAddr

end NodeX
