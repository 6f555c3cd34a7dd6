import CodeServer.Go.Strings

/-!
# The base domain a domain's ownership is checked on

`GetAsciiBaseDomain` validates a domain name, converts it to ASCII, and keeps its last two
labels; `VerifyDomainNameOwnership` fetches the ownership document from that base domain.
`netutil.ValidateDomainName`, `idna.Registration.ToASCII` and the HTTP fetch are not among
the sources and are parameters here. Go splits bytes and Lean characters; for the ASCII
separator `.` the two agree, since no byte of a multi-byte UTF-8 character is ASCII.

The result is the label-aligned suffix of the ASCII name made of its last two labels, with
exactly one `.`, and the extraction is a fixed point on it (`base_domain_last_two_labels`).
So ownership is verified per base domain: a domain is verified exactly as its base domain
is, `app.getcode.com` apart (`verification_follows_base_domain`).
-/

namespace CodeServer.Thirdparty

open Go

/-- `GetAsciiBaseDomain(domain)`. -/
def getAsciiBaseDomain (validateDomainName : String → Except String Unit)
    (toASCII : String → Except String String) (domain : String) : Except String String :=
  match validateDomainName domain with
  | .error err => .error err
  | .ok () =>
    match toASCII domain with
    | .error err => .error ("domain is invalid: " ++ err)
    | .ok ascii =>
      let parts := split ascii '.'
      if h : parts.length < 2 then .error "value must have base domain and tld"
      else .ok (parts[parts.length - 2] ++ "." ++ parts[parts.length - 1])

/-- `VerifyDomainNameOwnership(owner, domain)`, given the public keys the document at a URL
lists, or the error fetching or decoding it. -/
def verifyDomainNameOwnership (validateDomainName : String → Except String Unit)
    (toASCII : String → Except String String) (publicKeysAt : String → Except String (List String))
    (owner domain : String) : Except String Bool := do
  let asciiBaseDomain ← getAsciiBaseDomain validateDomainName toASCII domain
  let asciiBaseDomain := if domain = "app.getcode.com" then "app.getcode.com" else asciiBaseDomain
  let registered ← publicKeysAt ("https://" ++ asciiBaseDomain ++ "/.well-known/code-payments.json")
  return registered.any (· == owner)

/-- A list of at least two elements ends with its last two. -/
theorem exists_eq_append_pair {α : Type} : ∀ (list : List α), 2 ≤ list.length →
    ∃ front first second, list = front ++ [first, second]
  | [first, second], _ => ⟨[], first, second, rfl⟩
  | head :: next :: more :: rest, _ =>
    let ⟨front, first, second, split⟩ := exists_eq_append_pair (next :: more :: rest) (by simp)
    ⟨head :: front, first, second, by rw [split]; rfl⟩
  | [], two | [_], two => absurd two (by simp)

/-- What a successful `GetAsciiBaseDomain` did: the name passed validation, converted to
`ascii`, and the result joins the last two of `ascii`'s labels, which hold no `.`, so that it
splits back into them. -/
theorem getAsciiBaseDomain_ok {validateDomainName : String → Except String Unit}
    {toASCII : String → Except String String} {domain base : String}
    (result : getAsciiBaseDomain validateDomainName toASCII domain = .ok base) :
    validateDomainName domain = .ok () ∧ ∃ ascii, toASCII domain = .ok ascii ∧
      ∃ front first second, split ascii '.' = front ++ [first, second] ∧
        '.' ∉ first.data ∧ '.' ∉ second.data ∧ split base '.' = [first, second] ∧
        base = first ++ "." ++ second := by
  unfold getAsciiBaseDomain at result
  split at result
  · cases result
  · rename_i valid
    split at result
    · cases result
    · rename_i ascii converted
      dsimp only at result
      split at result
      · cases result
      · rename_i two
        obtain ⟨front, first, second, parts⟩ :=
          exists_eq_append_pair (split ascii '.') (by omega)
        have firstFree := sep_not_mem_split (parts ▸ List.mem_append_right front (.head _))
        have secondFree := sep_not_mem_split
          (parts ▸ List.mem_append_right front (.tail _ (.head _)))
        have joined : base = first ++ "." ++ second := by
          simp only [Except.ok.injEq] at result
          simp [← result, parts, List.getElem_append_right]
        have data : (first ++ "." ++ second).data = first.data ++ '.' :: second.data := by simp
        refine ⟨valid, ascii, converted, front, first, second, parts, firstFree, secondFree, ?_,
          joined⟩
        rw [joined, String.ext data]
        exact split_pair firstFree secondFree

/-- Joining a label list ending in `first, second` is `first.second`, after the other labels
and a `.` when there are any. -/
theorem intercalate_append_pair (front : List (List Char)) (first second : List Char) :
    ['.'].intercalate (front ++ [first, second]) = first ++ '.' :: second ∨
      ∃ rest, ['.'].intercalate (front ++ [first, second]) = rest ++ '.' :: (first ++ '.' :: second) := by
  have split : front ++ [first, second] = (front ++ [first]) ++ [second] := by simp
  rw [split, intercalate_append_single _ (by simp)]
  cases front with
  | nil => exact .inl (by simp [List.intercalate])
  | cons head tail =>
    rw [intercalate_append_single _ (List.cons_ne_nil _ _)]
    exact .inr ⟨['.'].intercalate (head :: tail), by simp⟩

/-- For every domain on which `GetAsciiBaseDomain` succeeds with `base`, where `ascii` is the
domain converted to ASCII: `base` holds exactly one `.`; it is `ascii` or a suffix of `ascii`
after a `.`; its labels are the last two labels of `ascii`; and on `base` itself, when it
passes validation and is its own ASCII form, `GetAsciiBaseDomain` returns `base` again. -/
theorem base_domain_last_two_labels {validateDomainName : String → Except String Unit}
    {toASCII : String → Except String String} {domain ascii base : String}
    (converted : toASCII domain = .ok ascii)
    (result : getAsciiBaseDomain validateDomainName toASCII domain = .ok base) :
    base.data.count '.' = 1 ∧
    (ascii = base ∨ ∃ rest, ascii.data = rest ++ '.' :: base.data) ∧
    split base '.' = (split ascii '.').drop ((split ascii '.').length - 2) ∧
    (validateDomainName base = .ok () → toASCII base = .ok base →
      getAsciiBaseDomain validateDomainName toASCII base = .ok base) := by
  obtain ⟨-, ascii', converted', front, first, second, parts, firstFree, secondFree, pair, rfl⟩ :=
    getAsciiBaseDomain_ok result
  obtain rfl : ascii = ascii' := Except.ok.inj (converted.symm.trans converted')
  have data : (first ++ "." ++ second).data = first.data ++ '.' :: second.data := by simp
  refine ⟨?_, ?_, ?_, fun valid fixed => ?_⟩
  · simp [data, List.count_eq_zero_of_not_mem firstFree, List.count_eq_zero_of_not_mem secondFree]
  · have joined := intercalate_split ascii '.'
    rw [parts, List.map_append] at joined
    rcases intercalate_append_pair (front.map String.data) first.data second.data with whole | ⟨rest, suffix⟩
    · exact .inl (String.ext (by simpa [whole, data] using joined.symm))
    · exact .inr ⟨rest, by simpa [suffix, data] using joined.symm⟩
  · simp [pair, parts]
  · simp [getAsciiBaseDomain, valid, fixed, pair]

/-- Ownership is decided per base domain: on every domain other than `app.getcode.com` whose
base domain passes validation and is its own ASCII form, `VerifyDomainNameOwnership` answers
as on the base domain, error included. So every subdomain of a base domain has the owners the
base domain's document lists, and no subdomain is verified by a document of its own. -/
theorem verification_follows_base_domain {validateDomainName : String → Except String Unit}
    {toASCII : String → Except String String} {publicKeysAt : String → Except String (List String)}
    {owner domain base : String}
    (result : getAsciiBaseDomain validateDomainName toASCII domain = .ok base)
    (notTesting : domain ≠ "app.getcode.com") (valid : validateDomainName base = .ok ())
    (fixed : toASCII base = .ok base) :
    verifyDomainNameOwnership validateDomainName toASCII publicKeysAt owner domain =
      verifyDomainNameOwnership validateDomainName toASCII publicKeysAt owner base := by
  obtain ⟨-, -, -, -, first, second, -, -, -, pair, rfl⟩ := getAsciiBaseDomain_ok result
  have again : getAsciiBaseDomain validateDomainName toASCII (first ++ "." ++ second) =
      .ok (first ++ "." ++ second) := by
    simp [getAsciiBaseDomain, valid, fixed, pair]
  have twoLabels : first ++ "." ++ second ≠ "app.getcode.com" := fun same => by
    have three : (split "app.getcode.com" '.').length = 3 := by decide
    have two := congrArg List.length (same ▸ pair)
    simp [three] at two
  simp [verifyDomainNameOwnership, result, again, notTesting, twoLabels]

/-- `pay.example.com` is verified as `example.com` is. -/
theorem subdomain_verified_as_base_domain :
    getAsciiBaseDomain (fun _ => .ok ()) .ok "pay.example.com" = .ok "example.com" ∧
      verifyDomainNameOwnership (fun _ => .ok ()) .ok
          (fun url => if url = "https://example.com/.well-known/code-payments.json" then .ok ["bob"]
            else .ok []) "bob" "pay.example.com" = .ok true ∧
      verifyDomainNameOwnership (fun _ => .ok ()) .ok
          (fun url => if url = "https://example.com/.well-known/code-payments.json" then .ok ["bob"]
            else .ok []) "bob" "pay.example.com" =
        verifyDomainNameOwnership (fun _ => .ok ()) .ok
          (fun url => if url = "https://example.com/.well-known/code-payments.json" then .ok ["bob"]
            else .ok []) "bob" "example.com" :=
  have result : getAsciiBaseDomain (fun _ => .ok ()) .ok "pay.example.com" = .ok "example.com" :=
    rfl
  ⟨result, rfl, verification_follows_base_domain result (by decide) rfl rfl⟩

/-- `pay.example.com` has the base domain `example.com`, with one `.`. -/
theorem pay_example_base_domain :
    getAsciiBaseDomain (fun _ => .ok ()) .ok "pay.example.com" = .ok "example.com" ∧
      "example.com".data.count '.' = 1 :=
  have result : getAsciiBaseDomain (fun _ => .ok ()) .ok "pay.example.com" = .ok "example.com" :=
    rfl
  ⟨result, (base_domain_last_two_labels rfl result).1⟩

end CodeServer.Thirdparty
