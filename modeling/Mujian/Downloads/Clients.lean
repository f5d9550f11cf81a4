import Mujian.Downloads.Protection

/-!
# What the download clients connect to

Two clients fetch URLs that come from outside. Both check the first URL and every redirect. The
answers of a name server may differ at each lookup. `newImageGenerationHTTPClient` also checks each
address when it dials, but the port only with the URL (`imageDownload_safe_iff`).
`DoDownloadRequest` leaves the connection to `net/http`, which looks the name up again
(`doDownloadRequest_public_iff`).
-/

namespace Mujian.Downloads

variable (lib : Library)

/-- A request of a client: the text of its URL, the answers when it is checked, and what happens
when it is sent. -/
structure Request (δ : Type) where
  text : String
  lookupIP : List Char → Except String (List IP)
  sends : List δ

structure Visit (δ : Type) where
  request : Request δ
  url : URL

variable {δ : Type}

/-- The first request and those of the redirects, until one is refused. The check gets the number of
requests before. -/
def visits (check : ℕ → Request δ → Except String Unit) : ℕ → List (Request δ) → List (Visit δ)
  | _, [] => []
  | via, request :: rest =>
    match check via request, lib.parseURL request.text with
    | .ok (), .ok url => ⟨request, url⟩ :: visits check (via + 1) rest
    | _, _ => []

variable {lib}

theorem check_of_mem_visits {check : ℕ → Request δ → Except String Unit} {via : ℕ}
    {requests : List (Request δ)} {visit : Visit δ} (h : visit ∈ visits lib check via requests) :
    (∃ via, check via visit.request = .ok ()) ∧
      lib.parseURL visit.request.text = .ok visit.url := by
  induction requests generalizing via with
  | nil => cases h
  | cons request rest ih =>
    unfold visits at h
    split at h
    · next hcheck hurl =>
      rcases List.mem_cons.1 h with rfl | h
      · exact ⟨⟨via, hcheck⟩, hurl⟩
      · exact ih h
    · cases h

variable (lib)

structure IPAddr where
  ip : IP
  zone : String := ""

structure Dial where
  lookupIP : List Char → Option (List IPAddr)
  /-- The addresses that fail, with their error. -/
  connectErr : IPAddr → Option String

structure Dialed where
  ip : IP
  port : List Char

section

variable (setting : FetchSetting) (url : URL)

def validateImageGenerationURLWithSetting
    (lookupIP : List Char → Except String (List IP)) (value : String) : Except String Unit :=
  match lib.parseURL value with
  | .error _ => .error "生成图片地址无效"
  | .ok parsed =>
    if parsed.host = [] ∨ (parsed.scheme ≠ "http" ∧ parsed.scheme ≠ "https") then .error "生成图片地址无效"
    else
      match validateURLWithFetchSetting lib setting lookupIP value with
      | .error _ => .error "生成图片地址不安全"
      | .ok () => .ok ()

/-- The check of the first URL by `newImageGenerationHTTPClient` and of the others by its
`CheckRedirect`. -/
def checkImageRequest (via : ℕ) (request : Request Dial) : Except String Unit :=
  if via ≥ 10 then .error "生成图片重定向次数过多"
  else validateImageGenerationURLWithSetting lib setting request.lookupIP request.text

/-- The protection of `imageGenerationDialer`. -/
def FetchSetting.dialProtection (setting : FetchSetting) : SSRFProtection where
  allowPrivateIp := setting.allowPrivateIp
  domainFilterMode := false
  domainList := []
  ipFilterMode := setting.ipFilterMode
  ipList := setting.ipList
  allowedPorts := []
  applyIPFilterForDomain := false

def dialUntil (port : List Char) (connectErr : IPAddr → Option String) :
    List IPAddr → String → List Dialed × Except String IPAddr
  | [], dialErr => ([], .error dialErr)
  | candidate :: rest, _ =>
    match connectErr candidate with
    | none => ([⟨candidate.ip, port⟩], .ok candidate)
    | some err =>
      let (dialed, result) := dialUntil port connectErr rest err
      (⟨candidate.ip, port⟩ :: dialed, result)

/-- The addresses of a host: itself, or the answer of a lookup. -/
def Dial.addresses (dial : Dial) (host : List Char) : List IPAddr :=
  match lib.parseIP host with
  | some literal => [{ ip := literal }]
  | none => (dial.lookupIP host).getD []

/-- `imageGenerationDialer.DialContext`: what it dials and what it returns. -/
def dialContext (dial : Dial) (address : List Char) : List Dialed × Except String IPAddr :=
  match splitHostPort address with
  | none => ([], .error "生成图片地址无效")
  | some (host, port) =>
    if (dial.addresses lib host).isEmpty then ([], .error "生成图片地址解析失败")
    else if setting.enableSSRFProtection &&
        (dial.addresses lib host).any (fun candidate =>
          !setting.dialProtection.isIPAccessAllowed lib candidate.ip) then
      ([], .error "生成图片地址不安全")
    else dialUntil port dial.connectErr (dial.addresses lib host) ""

def URL.canonicalPort (url : URL) : List Char :=
  if url.port = [] then (if url.scheme = "https" then "443" else "80").toList else url.port

/-- The address that `net/http` dials for a URL. -/
def canonicalAddr : List Char := joinHostPort (lib.idnaASCII url.hostname) url.canonicalPort

def Visit.dialed (setting : FetchSetting) (visit : Visit Dial) : List Dialed :=
  visit.request.sends.flatMap fun dial =>
    (dialContext lib setting dial (canonicalAddr lib visit.url)).1

/-- The requests that the client of `newImageGenerationHTTPClient` sends, redirects included. -/
def imageDownload (requests : List (Request Dial)) : List (Visit Dial) :=
  visits lib (checkImageRequest lib setting) 0 requests

def PortAllowed (port : List Char) : Prop :=
  ∃ allowedPorts n, parsePortRanges lib setting.allowedPorts = .ok allowedPorts ∧
    atoi (String.ofList port) = some n ∧ (setting.protection allowedPorts).isAllowedPort n = true

structure Dialed.Safe (setting : FetchSetting) (dialed : Dialed) : Prop where
  isPrivateIP_eq : isPrivateIP dialed.ip = false
  isIPListed_eq : isIPListed lib dialed.ip setting.ipList = setting.ipFilterMode
  portAllowed : PortAllowed lib setting dialed.port

def PortChecked : Prop :=
  splitHostPort url.host ≠ none ∨ url.port = [] ∨ PortAllowed lib setting url.port

end

section

variable {lib} {setting : FetchSetting}

variable {port : List Char} {dialed : Dialed} {requests : List (Request Dial)} {visit : Visit Dial}

theorem mem_dialUntil {connectErr : IPAddr → Option String}
    {addresses : List IPAddr} {dialErr : String}
    (h : dialed ∈ (dialUntil port connectErr addresses dialErr).1) :
    dialed.port = port ∧ ∃ candidate ∈ addresses, dialed.ip = candidate.ip := by
  induction addresses generalizing dialErr with
  | nil => cases h
  | cons candidate rest ih =>
    unfold dialUntil at h
    split at h
    · obtain rfl := List.mem_singleton.1 h
      exact ⟨rfl, candidate, List.mem_cons_self, rfl⟩
    · rcases List.mem_cons.1 h with rfl | h
      · exact ⟨rfl, candidate, List.mem_cons_self, rfl⟩
      · obtain ⟨hport, candidate', hmem, hip⟩ := ih h
        exact ⟨hport, candidate', List.mem_cons_of_mem _ hmem, hip⟩

theorem mem_dialContext {dial : Dial} {host : List Char}
    (hssrf : setting.enableSSRFProtection = true) (hport : ':' ∉ port)
    (h : dialed ∈ (dialContext lib setting dial (joinHostPort host port)).1) :
    dialed.port = port ∧ setting.dialProtection.isIPAccessAllowed lib dialed.ip = true := by
  unfold dialContext at h
  split at h
  · cases h
  · next host' port' hsplit =>
    obtain rfl := port_of_splitHostPort_joinHostPort hport hsplit
    split at h
    · cases h
    · split at h
      · cases h
      · next hallowed =>
        obtain ⟨hport', candidate, hmem, hip⟩ := mem_dialUntil h
        rw [hssrf, Bool.true_and, List.any_eq_true] at hallowed
        rw [hip]
        refine ⟨hport', ?_⟩
        by_contra hrefused
        exact hallowed ⟨candidate, hmem, by simpa using hrefused⟩

theorem URL.colon_notMem_canonicalPort (url : URL) : ':' ∉ url.canonicalPort := by
  unfold URL.canonicalPort
  split
  · split
    · decide
    · decide
  · exact url.colon_notMem_port

/-- **A checked port is the one that is dialed.** -/
theorem URL.canonicalPort_eq_checked {url : URL} (h : splitHostPort url.host ≠ none ∨ url.port = [])
    (hport : atoi (String.ofList url.checked.2) ≠ none) : url.canonicalPort = url.checked.2 := by
  unfold URL.checked at hport ⊢
  cases hsplit : splitHostPort url.host with
  | some parts =>
    obtain ⟨host, port⟩ := parts
    obtain ⟨-, hurl⟩ := URL.of_splitHostPort hsplit
    rw [hsplit] at hport
    unfold URL.canonicalPort
    rw [hurl, if_neg]
    rintro rfl
    exact hport rfl
  | none =>
    unfold URL.canonicalPort
    rw [if_pos (h.resolve_left (not_not_intro hsplit))]

theorem validate_of_mem_imageDownload (h : visit ∈ imageDownload lib setting requests) :
    validateURLWithFetchSetting lib setting visit.request.lookupIP visit.request.text = .ok () ∧
      lib.parseURL visit.request.text = .ok visit.url := by
  obtain ⟨⟨via, hcheck⟩, hurl⟩ := check_of_mem_visits h
  refine ⟨?_, hurl⟩
  unfold checkImageRequest validateImageGenerationURLWithSetting at hcheck
  rw [hurl] at hcheck
  dsimp only at hcheck
  split at hcheck
  · cases hcheck
  · split at hcheck
    · cases hcheck
    · split at hcheck
      · cases hcheck
      · assumption

theorem portAllowed_of_portChecked
    (hssrf : setting.enableSSRFProtection = true) (h : visit ∈ imageDownload lib setting requests)
    (hchecked : PortChecked lib setting visit.url) :
    PortAllowed lib setting visit.url.canonicalPort := by
  obtain ⟨hvalid, hurl⟩ := validate_of_mem_imageDownload h
  obtain ⟨allowedPorts, n, hports, -, hn, hallowed, -⟩ :=
    validateURLWithFetchSetting_ok hssrf hurl hvalid
  have hsame : (splitHostPort visit.url.host ≠ none ∨ visit.url.port = []) →
      PortAllowed lib setting visit.url.canonicalPort := fun h => by
    rw [URL.canonicalPort_eq_checked h (by rw [hn]; exact Option.some_ne_none n)]
    exact ⟨allowedPorts, n, hports, hn, hallowed⟩
  rcases hchecked with hsplit | hport | hallowed'
  · exact hsame (.inl hsplit)
  · exact hsame (.inr hport)
  · by_cases hport : visit.url.port = []
    · exact hsame (.inr hport)
    · rw [URL.canonicalPort, if_neg hport]
      exact hallowed'

/-- **Every address that is dialed for a generated image is public and meets the list of addresses,
and it has an allowed port exactly when the port of its URL was checked.** -/
theorem imageDownload_safe_iff (hssrf : setting.enableSSRFProtection = true)
    (hprivate : setting.allowPrivateIp = false) (requests : List (Request Dial)) :
    (∀ visit ∈ imageDownload lib setting requests, ∀ dialed ∈ visit.dialed lib setting,
      dialed.Safe lib setting) ↔
    ∀ visit ∈ imageDownload lib setting requests, visit.dialed lib setting ≠ [] →
      PortChecked lib setting visit.url := by
  constructor
  · intro hsafe visit hvisit hdialed
    obtain ⟨dialed, hmem⟩ := List.exists_mem_of_ne_nil _ hdialed
    obtain ⟨dial, -, hdial⟩ := List.mem_flatMap.1 hmem
    obtain ⟨hport, -⟩ := mem_dialContext hssrf visit.url.colon_notMem_canonicalPort hdial
    have hallowed := (hsafe visit hvisit dialed hmem).portAllowed
    by_cases hurl : visit.url.port = []
    · exact .inr (.inl hurl)
    · rw [hport, URL.canonicalPort, if_neg hurl] at hallowed
      exact .inr (.inr hallowed)
  · intro hchecked visit hvisit dialed hmem
    obtain ⟨dial, -, hdial⟩ := List.mem_flatMap.1 hmem
    obtain ⟨hport, hip⟩ := mem_dialContext hssrf visit.url.colon_notMem_canonicalPort hdial
    obtain ⟨hpublic, hlisted⟩ := SSRFProtection.not_private_of_allowed hprivate hip
    refine ⟨hpublic, hlisted, ?_⟩
    rw [hport]
    exact portAllowed_of_portChecked hssrf hvisit
      (hchecked visit hvisit (List.ne_nil_of_mem hmem))

end

/-- The texts of the samples below as Go reads them. -/
def sampleLibrary : Library where
  parseURL text :=
    let host := (text.toList.drop 7).takeWhile (· ≠ '/')
    if h : "http://".toList.isPrefixOf text.toList = true ∧ validHost host = true then
      .ok ⟨"http", host, h.2⟩
    else .error text
  parseIP text :=
    if text = "2606:4700::1111".toList then
      some ([0x26, 0x06, 0x47] ++ List.replicate 11 0 ++ [0x11, 0x11])
    else none
  parseCIDR _ := none
  ipText _ := ""
  idnaASCII := id
  atoiError := id

/-- The setting that a new installation has. -/
def defaultFetchSetting : FetchSetting where
  enableSSRFProtection := true
  allowPrivateIp := false
  domainFilterMode := false
  ipFilterMode := false
  domainList := []
  ipList := []
  allowedPorts := ["80", "443", "8080", "8443"]
  applyIPFilterForDomain := true

/-- A request to which every lookup answers with one address, which connects. -/
def sampleRequest (text : String) (ip : IP) : Request Dial where
  text := text
  lookupIP _ := .ok [ip]
  sends := [⟨fun _ => some [{ ip := ip }], fun _ => none⟩]

/-- An address outside of all networks above. -/
def publicIP : IP := [93, 184, 216, 34]

theorem imageDownload_safe_sample :
    (imageDownload sampleLibrary defaultFetchSetting
        [sampleRequest "http://images.example/a.png" publicIP]).map
      (fun visit => (visit.dialed sampleLibrary defaultFetchSetting).length) = [1] ∧
    ∀ visit ∈ imageDownload sampleLibrary defaultFetchSetting
        [sampleRequest "http://images.example/a.png" publicIP],
      ∀ dialed ∈ visit.dialed sampleLibrary defaultFetchSetting,
        dialed.Safe sampleLibrary defaultFetchSetting := by
  refine ⟨by decide +kernel,
    (imageDownload_safe_iff rfl rfl _).2 fun visit hvisit _ => .inr (.inl ?_)⟩
  revert visit
  decide +kernel

/-- `http://2606:4700::1111:22/` is checked as a URL without a port, and port 22 is dialed. -/
theorem unchecked_port_dialed :
    (imageDownload sampleLibrary defaultFetchSetting
        [sampleRequest "http://2606:4700::1111:22/" publicIP]).map
      (fun visit => (visit.dialed sampleLibrary defaultFetchSetting).map
        fun dialed => String.ofList dialed.port) = [["22"]] ∧
    ¬PortAllowed sampleLibrary defaultFetchSetting "22".toList := by
  refine ⟨by decide +kernel, ?_⟩
  rintro ⟨allowedPorts, n, hports, hn, hallowed⟩
  have hlist : parsePortRanges sampleLibrary defaultFetchSetting.allowedPorts =
      .ok [80, 443, 8080, 8443] := by decide +kernel
  have htext : atoi (String.ofList "22".toList) = some 22 := by decide +kernel
  obtain rfl := Except.ok.inj (hports.symm.trans hlist)
  obtain rfl := Option.mem_unique hn htext
  exact absurd hallowed (by decide +kernel)

/-- The check of the first URL by `DoDownloadRequest` and of the others by `checkRedirect`, for a
request without credentials. -/
def checkDownloadRequest (setting : FetchSetting) (via : ℕ) (request : Request IP) :
    Except String Unit :=
  match validateURLWithFetchSetting lib setting request.lookupIP request.text with
  | .error err =>
    .error (if via = 0 then "request reject: " ++ err
      else "redirect to " ++ request.text ++ " blocked: " ++ err)
  | .ok () => if via ≥ 10 then .error "stopped after 10 redirects" else .ok ()

/-- The requests that `DoDownloadRequest` sends without a worker, redirects included. -/
def doDownloadRequest (setting : FetchSetting) (requests : List (Request IP)) : List (Visit IP) :=
  visits lib (checkDownloadRequest lib setting) 0 requests

/-- What `net/http` connects to: a literal address, or some that it gets by looking the name up. -/
def Visit.connected (visit : Visit IP) : List IP :=
  match lib.parseIP visit.url.hostname with
  | some literal => [literal]
  | none => visit.request.sends

section

variable {lib} {setting : FetchSetting}

theorem URL.checked_fst (url : URL) : url.checked.1 = url.hostname := by
  unfold URL.checked
  split
  · next hsplit => exact (URL.of_splitHostPort hsplit).1.symm
  · rfl

theorem validateHost_of_mem_doDownloadRequest {requests : List (Request IP)} {visit : Visit IP}
    (hssrf : setting.enableSSRFProtection = true)
    (h : visit ∈ doDownloadRequest lib setting requests) :
    ∃ allowedPorts, (setting.protection allowedPorts).validateHost lib visit.request.lookupIP
      visit.url.hostname = .ok () := by
  obtain ⟨⟨via, hcheck⟩, hurl⟩ := check_of_mem_visits h
  have hvalid : validateURLWithFetchSetting lib setting visit.request.lookupIP
      visit.request.text = .ok () := by
    unfold checkDownloadRequest at hcheck
    split at hcheck
    · cases hcheck
    · assumption
  obtain ⟨allowedPorts, n, -, -, -, -, hhost⟩ := validateURLWithFetchSetting_ok hssrf hurl hvalid
  exact ⟨allowedPorts, visit.url.checked_fst ▸ hhost⟩

/-- **A host that passes the check has no private address**, neither itself nor by the lookup of the
check. -/
theorem validateHost_public {p : SSRFProtection} {lookupIP : List Char → Except String (List IP)}
    {host : List Char} (hprivate : p.allowPrivateIp = false)
    (hfilter : p.applyIPFilterForDomain = true) (h : p.validateHost lib lookupIP host = .ok ()) :
    match lib.parseIP host with
    | some literal => isPrivateIP literal = false
    | none => ∃ ips, lookupIP host = .ok ips ∧ ∀ ip ∈ ips, isPrivateIP ip = false := by
  unfold SSRFProtection.validateHost at h
  cases hip : lib.parseIP host with
  | some literal =>
    simp only [hip] at h
    split at h
    · exact (SSRFProtection.not_private_of_allowed hprivate ‹_›).1
    · cases h
  | none =>
    simp only [hip, hfilter, Bool.true_eq_false, if_false] at h
    split at h
    · cases h
    split at h
    · cases h
    split at h
    · next ips hlookup _ hfind =>
      refine ⟨ips, hlookup, fun ip hip => ?_⟩
      have hallowed := List.find?_eq_none.1 hfind ip hip
      exact (SSRFProtection.not_private_of_allowed hprivate (by simpa using hallowed)).1
    · cases h

/-- **A relayed download never connects to a private address exactly when the second lookup of a
name gives no private address that the first one did not give.** -/
theorem doDownloadRequest_public_iff (hssrf : setting.enableSSRFProtection = true)
    (hprivate : setting.allowPrivateIp = false) (hfilter : setting.applyIPFilterForDomain = true)
    (requests : List (Request IP)) :
    (∀ visit ∈ doDownloadRequest lib setting requests, ∀ ip ∈ visit.connected lib,
      isPrivateIP ip = false) ↔
    ∀ visit ∈ doDownloadRequest lib setting requests, lib.parseIP visit.url.hostname = none →
      ∀ ip ∈ visit.request.sends, isPrivateIP ip = true →
        ∃ ips, visit.request.lookupIP visit.url.hostname = .ok ips ∧ ip ∈ ips := by
  refine forall₂_congr fun visit hvisit => ?_
  obtain ⟨allowedPorts, hhost⟩ := validateHost_of_mem_doDownloadRequest hssrf hvisit
  have hpublic := validateHost_public (p := setting.protection allowedPorts) hprivate hfilter hhost
  unfold Visit.connected
  cases hip : lib.parseIP visit.url.hostname with
  | some literal =>
    rw [hip] at hpublic
    simpa using hpublic
  | none =>
    rw [hip] at hpublic
    obtain ⟨ips, hlookup, hpublic⟩ := hpublic
    rw [hlookup]
    refine ⟨fun h _ ip hsent hpriv => ?_, fun h ip hsent => ?_⟩
    · rw [h ip hsent] at hpriv
      cases hpriv
    · -- an address that both lookups give has been checked
      by_contra hpriv
      obtain ⟨ips', heq, hmem⟩ := h rfl ip hsent (by simpa using hpriv)
      obtain rfl := Except.ok.inj heq
      exact hpriv (hpublic ip hmem)

end

theorem doDownloadRequest_public_sample :
    (doDownloadRequest sampleLibrary defaultFetchSetting
        [⟨"http://files.example/a", fun _ => .ok [publicIP], [publicIP]⟩]).map
      (fun visit => visit.connected sampleLibrary) = [[publicIP]] ∧
    ∀ visit ∈ doDownloadRequest sampleLibrary defaultFetchSetting
        [⟨"http://files.example/a", fun _ => .ok [publicIP], [publicIP]⟩],
      ∀ ip ∈ visit.connected sampleLibrary, isPrivateIP ip = false := by
  refine ⟨by decide +kernel,
    (doDownloadRequest_public_iff rfl rfl rfl _).2 fun visit hvisit _ ip hsent _ => ?_⟩
  have hsame : ∀ visit ∈ doDownloadRequest sampleLibrary defaultFetchSetting
        [⟨"http://files.example/a", fun _ => .ok [publicIP], [publicIP]⟩],
      visit.request.lookupIP visit.url.hostname = .ok visit.request.sends := by decide +kernel
  exact ⟨_, hsame visit hvisit, hsent⟩

/-- The name has a public address when it is checked and the one of the machine itself when the
connection is made. -/
theorem rebound_name_connected :
    (doDownloadRequest sampleLibrary defaultFetchSetting
        [⟨"http://files.example/a", fun _ => .ok [publicIP], [[127, 0, 0, 1]]⟩]).map
      (fun visit => visit.connected sampleLibrary) = [[[127, 0, 0, 1]]] ∧
    isPrivateIP [127, 0, 0, 1] = true := by decide +kernel

end Mujian.Downloads
