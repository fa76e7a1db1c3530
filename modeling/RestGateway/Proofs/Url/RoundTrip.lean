import RestGateway.Proofs.Url.Hosts
import RestGateway.Proofs.Url.Paths

/-!
# URLs are read back

The text of an `http` or `https` URL that was read is read as that URL: every part is encoded as its
place in the text needs it, so each part is cut where it was put.
-/

set_option autoImplicit false

namespace RestGateway.Url

open Percent (Plain Keeps encode inUserInfo inPath inSpecialQuery inFragment)

def IsWritten (scheme : List Char) (port : Nat) : Prop :=
  port ≤ 65535 ∧ defaultPort scheme ≠ some port

/-- The special URLs that are read of texts: each part is encoded for its place. -/
inductive IsNormal : Url → Prop
  | parts {scheme username password : List Char} {host : Host} {port : Option Nat}
      {path : List (List Char)} {query fragment : Option (List Char)}
      (special : isSpecialScheme scheme = true) (user : Plain inUserInfo username)
      (secret : Plain inUserInfo password) (named : host.IsNormal)
      (written : ∀ n ∈ port, IsWritten scheme n) (segments : IsPath path)
      (asks : ∀ text ∈ query, Plain inSpecialQuery text)
      (points : ∀ text ∈ fragment, Plain inFragment text) :
      IsNormal ⟨scheme, username, password, some host, port, .segments path, query, fragment⟩

variable {scheme text : List Char} {port : Option Nat}

theorem IsNormal.setPath {u : Url} (h : u.IsNormal) (path : String) : (u.setPath path).IsNormal := by
  obtain ⟨special, user, secret, named, written, -, asks, points⟩ := h
  simp only [Url.setPath, isSpecial, special]
  exact .parts special user secret named written (segments_isPath _) asks points

theorem ascii_of_controls {c : Char} (h : Percent.inControls c = false) : c.toNat < 0x80 := by
  simp only [Percent.inControls, Bool.or_eq_false_iff, decide_eq_false_iff_not] at h
  omega

theorem fragment_visible {c : Char} (h : inFragment c = false) : 0x20 < c.toNat := by
  have hcontrols : Percent.inControls c = false := (Bool.or_eq_false_iff.mp h).1
  revert h
  exact Ascii.of_forall (ascii_of_controls hcontrols) (by decide)

theorem path_visible {c : Char} (h : inPath c = false) : 0x20 < c.toNat ∧ c ≠ '?' ∧ c ≠ '#' := by
  have hfragment : inFragment c = false := (Bool.or_eq_false_iff.mp h).1
  have hcontrols : Percent.inControls c = false := (Bool.or_eq_false_iff.mp hfragment).1
  revert h
  exact Ascii.of_forall (ascii_of_controls hcontrols) (by decide)

theorem userInfo_visible {c : Char} (h : inUserInfo c = false) :
    Host.isPlain c = true ∧ c ≠ ':' := by
  have hpath : inPath c = false := (Bool.or_eq_false_iff.mp h).1
  have hfragment : inFragment c = false := (Bool.or_eq_false_iff.mp hpath).1
  have hcontrols : Percent.inControls c = false := (Bool.or_eq_false_iff.mp hfragment).1
  revert h
  exact Ascii.of_forall (ascii_of_controls hcontrols) (by decide)

theorem query_visible {c : Char} (h : inSpecialQuery c = false) : 0x20 < c.toNat ∧ c ≠ '#' := by
  have hquery : Percent.inQuery c = false := (Bool.or_eq_false_iff.mp h).1
  have hcontrols : Percent.inControls c = false := (Bool.or_eq_false_iff.mp hquery).1
  revert h
  exact Ascii.of_forall (ascii_of_controls hcontrols) (by decide)

theorem cut_part {mark : Char} {part : Option (List Char)} (h : mark ∉ text) :
    cut mark (text ++ Url.part mark part) = (text, part) := by
  unfold cut
  cases part with
  | none => rw [Url.part, List.append_nil, Text.splitOnce_none.mpr h]
  | some after => rw [Url.part, Text.splitOnce_iff.mpr ⟨rfl, h⟩]

theorem filter_visible (h : ∀ c ∈ text, 0x20 < c.toNat) :
    text.filter (fun c => c != '\t' && c != '\n' && c != '\r') = text := by
  refine List.filter_eq_self.mpr fun c hc => ?_
  have hvisible := h c hc
  simp only [Bool.and_eq_true, bne_iff_ne]
  refine ⟨⟨?_, ?_⟩, ?_⟩ <;> rintro rfl <;> exact absurd hvisible (by decide)

theorem trimmed_visible (h : ∀ c ∈ text, 0x20 < c.toNat) : trimmed text = text := by
  have hdrop (cs : List Char) (hcs : ∀ c ∈ cs, 0x20 < c.toNat) :
      cs.dropWhile (fun c => decide (c.toNat ≤ 0x20)) = cs :=
    (Text.cut_iff.mpr ⟨rfl, by simp, fun c hc => by simpa using hcs c (List.mem_of_mem_head? hc)⟩ :
      cs.takeWhile _ = [] ∧ _).2
  simp only [trimmed, hdrop text h, hdrop text.reverse (by simpa using h), List.reverse_reverse,
    filter_visible h]

variable {username password name : List Char} {host : Host}

theorem splitUser_none (h : '@' ∉ name) : splitUser name = (none, name) := by
  have hlast : (name.reverse.takeWhile (· != '@')).reverse = name :=
    Text.last_iff.mpr ⟨[], rfl, by simp, h⟩
  simp only [splitUser, hlast, Nat.lt_irrefl, if_false]

theorem splitUser_some (h : '@' ∉ name) : splitUser (text ++ '@' :: name) = (some text, name) := by
  have hlast : ((text ++ '@' :: name).reverse.takeWhile (· != '@')).reverse = name :=
    Text.last_iff.mpr ⟨text ++ ['@'], by simp, by simp, h⟩
  have hlength : (text ++ '@' :: name).length = text.length + 1 + name.length := by
    simp only [List.length_append, List.length_cons]
    omega
  have hcut : (text ++ '@' :: name).length - name.length - 1 = text.length := by omega
  simp only [splitUser, hlast, hcut, List.take_left]
  rw [if_pos (by omega)]

theorem port_toDigits {n : Nat} (h : IsWritten scheme n) :
    port? scheme (Nat.toDigits 10 n) = some (some n) := by
  have hne : (Nat.toDigits 10 n).isEmpty = false := by simp [Nat.toDigits_ne_nil]
  have hdigits : (Nat.toDigits 10 n).all Ascii.isDigit = true :=
    List.all_eq_true.mpr fun c hc => Ascii.isDigit_of_isDigit (toDigits_digit n c hc)
  simp only [port?, hne, hdigits, Ascii.ofDigits_toDigits, Bool.false_eq_true, if_false, if_true]
  rw [if_neg (Nat.not_lt.mpr h.1), if_neg h.2]

def credentials (username password : List Char) : List Char :=
  username ++ if password.isEmpty then [] else ':' :: password

theorem cut_credentials (h : ':' ∉ username) (password : List Char) :
    (cut ':' (credentials username password)).1 = username ∧
      (cut ':' (credentials username password)).2.getD [] = password := by
  have hpart : credentials username password =
      username ++ part ':' (if password.isEmpty then none else some password) := by
    unfold credentials
    split_ifs <;> rfl
  rw [hpart, cut_part h]
  refine ⟨rfl, ?_⟩
  cases password <;> rfl

def portText : Option Nat → List Char
  | some n => ':' :: Nat.toDigits 10 n
  | none => []

theorem portText_head (port : Option Nat) : ∀ c ∈ (portText port).head?, c = ':' := by
  cases port <;> simp [portText]

theorem port_portText (h : ∀ n ∈ port, IsWritten scheme n) :
    port? scheme ((portText port).drop 1) = some port := by
  cases port with
  | none => rfl
  | some n => exact port_toDigits (h n rfl)

def site (username password : List Char) (host : Host) (port : Option Nat) : List Char :=
  (if username.isEmpty ∧ password.isEmpty then [] else credentials username password ++ ['@']) ++
    (host.chars ++ portText port)

theorem portText_plain {c : Char} (h : c ∈ portText port) : Host.isPlain c = true := by
  cases port with
  | none => cases h
  | some n =>
    rcases List.mem_cons.mp h with rfl | h
    · decide
    · have hdigit := toDigits_digit n c h
      revert hdigit
      exact Ascii.of_forall (Ascii.digit_lt (toDigits_digit n c h)) (by decide)

theorem splitUser_site (named : host.IsNormal) :
    splitUser (site username password host port) =
      (if username.isEmpty ∧ password.isEmpty then none else some (credentials username password),
        host.chars ++ portText port) := by
  have hat : '@' ∉ host.chars ++ portText port := by
    intro h
    rcases List.mem_append.mp h with h | h
    · exact absurd (named.plain _ h) (by decide)
    · exact absurd (portText_plain h) (by decide)
  unfold site
  split_ifs
  · exact splitUser_none hat
  · rw [List.append_assoc]
    exact splitUser_some hat

theorem authority_site (special : isSpecialScheme scheme = true) (user : Plain inUserInfo username)
    (secret : Plain inUserInfo password) (named : host.IsNormal)
    (written : ∀ n ∈ port, IsWritten scheme n) :
    authority? scheme (site username password host port) =
      some ⟨username, password, host, port⟩ := by
  have hcolon : ':' ∉ username := fun h => (userInfo_visible (user _ h)).2 rfl
  obtain ⟨huser, hsecret⟩ := cut_credentials hcolon password
  have hget : (if username.isEmpty ∧ password.isEmpty then none
      else some (credentials username password)).getD [] = credentials username password := by
    split_ifs with hempty
    · rw [List.isEmpty_iff, List.isEmpty_iff] at hempty
      rw [hempty.1, hempty.2]
      rfl
    · rfl
  have hname : host.chars.isEmpty = false := by simpa using named.chars_ne_nil
  simp only [authority?, splitUser_site named, hget, huser, hsecret, named.ends (portText_head port),
    List.drop_left, special, if_true, hname, Bool.false_eq_true, if_false, named.reads,
    Option.bind_eq_bind, Option.bind_some, named.ne_empty, false_and, port_portText written,
    Percent.encode_plain user, Percent.encode_plain secret]

theorem credentials_plain (user : Plain inUserInfo username) (secret : Plain inUserInfo password) :
    ∀ c ∈ credentials username password, Host.isPlain c = true := by
  intro c hc
  rcases List.mem_append.mp hc with hc | hc
  · exact (userInfo_visible (user c hc)).1
  · split_ifs at hc
    · cases hc
    · rcases List.mem_cons.mp hc with rfl | hc
      · decide
      · exact (userInfo_visible (secret c hc)).1

theorem site_visible (user : Plain inUserInfo username) (secret : Plain inUserInfo password)
    (named : host.IsNormal) : ∀ c ∈ site username password host port,
      0x20 < c.toNat ∧ endsAuthority c = false := by
  have hplain {c : Char} (h : Host.isPlain c = true) : 0x20 < c.toNat ∧ endsAuthority c = false :=
    ⟨(Host.isPlain_iff.mp h).1, (Host.isPlain_iff.mp h).2.1⟩
  intro c hc
  rcases List.mem_append.mp hc with hc | hc
  · split_ifs at hc
    · cases hc
    · rcases List.mem_append.mp hc with hc | hc
      · exact hplain (credentials_plain user secret c hc)
      · rw [List.mem_singleton.mp hc]
        decide
  · rcases List.mem_append.mp hc with hc | hc
    · exact hplain (named.plain c hc)
    · exact hplain (portText_plain hc)

theorem site_ne_nil (named : host.IsNormal) : site username password host port ≠ [] := by
  simp [site, named.chars_ne_nil]

variable {path : List (List Char)} {query fragment : Option (List Char)}

def place (username password : List Char) (host : Host) (port : Option Nat)
    (path : List (List Char)) : List Char :=
  '/' :: '/' :: (site username password host port ++ (Path.segments path).chars)

theorem chars_place :
    chars ⟨scheme, username, password, some host, port, .segments path, query, fragment⟩ =
      scheme ++ ':' :: (place username password host port path ++ part '?' query ++
        part '#' fragment) := by
  cases port <;> simp [chars, authority, userInfo, pathMark, place, site, credentials, portText]

theorem path_chars_visible (segments : IsPath path) : ∀ c ∈ (Path.segments path).chars,
    0x20 < c.toNat ∧ c ≠ '?' ∧ c ≠ '#' := by
  intro c hc
  rw [chars_segments segments.1] at hc
  rcases List.mem_cons.mp hc with rfl | hc
  · decide
  · obtain rfl | ⟨s, hs, hc⟩ := Text.mem_intercalate hc
    · decide
    · exact path_visible ((segments.2 s hs).plain c hc)

theorem place_visible (user : Plain inUserInfo username) (secret : Plain inUserInfo password)
    (named : host.IsNormal) (segments : IsPath path) : ∀ c ∈ place username password host port path,
      0x20 < c.toNat ∧ c ≠ '?' ∧ c ≠ '#' := by
  intro c hc
  simp only [place, List.mem_cons, List.mem_append] at hc
  rcases hc with rfl | rfl | hc | hc
  · decide
  · decide
  · obtain ⟨hvisible, hends⟩ := site_visible user secret named c hc
    refine ⟨hvisible, ?_, ?_⟩ <;> rintro rfl <;> exact absurd hends (by decide)
  · exact path_chars_visible segments c hc

theorem noSlash_of_ends {c : Char} (h : endsAuthority c = false) : isSlash true c = false :=
  Bool.eq_false_iff.mpr fun hs => by simp [endsAuthority_of_isSlash hs] at h

theorem afterScheme_place (special : isSpecialScheme scheme = true)
    (user : Plain inUserInfo username) (secret : Plain inUserInfo password)
    (named : host.IsNormal) (written : ∀ n ∈ port, IsWritten scheme n) (segments : IsPath path) :
    afterScheme? scheme (place username password host port path) query fragment =
      some ⟨scheme, username, password, some host, port, .segments path, query, fragment⟩ := by
  have hslash : ∀ c ∈ site username password host port, isSlash true c = false := fun c hc =>
    noSlash_of_ends (site_visible user secret named c hc).2
  have hfront : (place username password host port path).dropWhile (isSlash true) =
      site username password host port ++ (Path.segments path).chars := by
    have hslashes : ∀ c ∈ ['/', '/'], isSlash true c = true := List.all_eq_true.mp rfl
    refine (Text.cut_iff.mpr ⟨rfl, hslashes, ?_⟩).2
    intro c hc
    rw [List.append_eq, List.head?_append_of_ne_nil _ (site_ne_nil named)] at hc
    exact hslash c (List.mem_of_mem_head? hc)
  obtain ⟨hsite, hpath⟩ := Text.cut_iff.mpr ⟨rfl, (fun c hc => by simp [hslash c hc] :
      ∀ c ∈ site username password host port, (!isSlash true c) = true),
    (by rw [chars_segments segments.1]; simp [isSlash] :
      ∀ c ∈ (Path.segments path).chars.head?, (!isSlash true c) = false)⟩
  simp only [afterScheme?, special, if_true, hfront, hsite, hpath,
    authority_site special user secret named written, Option.bind_eq_bind, Option.bind_some,
    segments_chars segments]

theorem lower_special (special : isSpecialScheme scheme = true) : Ascii.lower scheme = scheme := by
  rcases isSpecialScheme_iff.mp special with rfl | rfl <;> decide

theorem scheme_visible (special : isSpecialScheme scheme = true) : ∀ c ∈ scheme, 0x20 < c.toNat := by
  have hall : scheme.all (fun c => decide (0x20 < c.toNat)) = true := by
    rcases isSpecialScheme_iff.mp special with rfl | rfl <;> rfl
  exact fun c hc => of_decide_eq_true (List.all_eq_true.mp hall c hc)

theorem mem_part {mark c : Char} {after : Option (List Char)} (h : c ∈ part mark after) :
    c = mark ∨ ∃ text ∈ after, c ∈ text := by
  cases after with
  | none => cases h
  | some text => exact (List.mem_cons.mp h).imp id fun h => ⟨text, rfl, h⟩

theorem map_encode {set : Char → Bool} (h : ∀ text ∈ query, Plain set text) :
    query.map (encode set) = query := by
  cases query with
  | none => rfl
  | some text => rw [Option.map_some, Percent.encode_plain (h text rfl)]

theorem IsNormal.visible {u : Url} (h : u.IsNormal) : ∀ c ∈ u.chars, 0x20 < c.toNat := by
  obtain @⟨scheme, username, password, host, port, path, query, fragment, special, user, secret,
    named, written, segments, asks, points⟩ := h
  intro c hc
  rw [chars_place] at hc
  simp only [List.mem_append, List.mem_cons] at hc
  rcases hc with hc | rfl | (hc | hc) | hc
  · exact scheme_visible special c hc
  · decide
  · exact (place_visible user secret named segments c hc).1
  · obtain rfl | ⟨text, htext, hc⟩ := mem_part hc
    · decide
    · exact (query_visible (asks text htext c hc)).1
  · obtain rfl | ⟨text, htext, hc⟩ := mem_part hc
    · decide
    · exact fragment_visible (points text htext c hc)

/-- The URL's path is made of segments, which are those of `text` if it is the text of some. -/
def Takes (u : Url) (text : String) : Prop :=
  ∃ parts, u.path = .segments parts ∧ IsPath parts ∧
    ∀ own, IsPath own → text.toList = (Path.segments own).chars → own = parts

theorem IsNormal.takes {u : Url} (h : u.IsNormal) (text : String) : (u.setPath text).Takes text := by
  obtain ⟨special, -, -, -, -, -, -, -⟩ := h
  refine ⟨_, by simp only [Url.setPath]; rfl, ?_, ?_⟩
  · rw [isSpecial, special]
    exact segments_isPath _
  · intro own hown htext
    have hkept : text.toList.filter (fun c => c != '\t' && c != '\n' && c != '\r') =
        text.toList := by
      rw [htext]
      exact filter_visible fun c hc => (path_chars_visible hown c hc).1
    rw [isSpecial, special, hkept, htext, segments_chars hown]

/-- The text of a URL that was read is read as that URL. -/
theorem IsNormal.reads {u : Url} (h : u.IsNormal) : parse? u.text = some u := by
  have hvisible := h.visible
  obtain @⟨scheme, username, password, host, port, path, query, fragment, special, user, secret,
    named, written, segments, asks, points⟩ := h
  have hplace : ∀ c ∈ place username password host port path,
      0x20 < c.toNat ∧ c ≠ '?' ∧ c ≠ '#' := place_visible user secret named segments
  have hquery : '?' ∉ place username password host port path := fun h => (hplace _ h).2.1 rfl
  have hfragment : '#' ∉ place username password host port path ++ part '?' query := by
    intro hc
    rcases List.mem_append.mp hc with hc | hc
    · exact (hplace _ hc).2.2 rfl
    · obtain hc | ⟨text, htext, hc⟩ := mem_part hc
      · exact absurd hc (by decide)
      · exact (query_visible (asks text htext _ hc)).2 rfl
  rw [parse?, text, String.toList_ofList, trimmed_visible hvisible, chars_place]
  have hscheme := @web_scheme scheme
    (place username password host port path ++ part '?' query ++ part '#' fragment)
    (by rw [lower_special special]; exact special)
  rw [lower_special special] at hscheme
  simp only [hscheme, Option.bind_eq_bind, Option.bind_some, cut_part hfragment, cut_part hquery,
    special, if_true, map_encode asks, map_encode points,
    afterScheme_place special user secret named written segments]

end RestGateway.Url
