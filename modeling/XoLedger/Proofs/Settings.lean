import XoLedger.Proofs.Client
import XoLedger.Proofs.Gateway.Endpoint

/-!
# Settings that pass the check can be connected

The check reads the URL as it is written, and a client reads it without the slashes at its end, in
front of which blanks may come to light. Neither can belong to the scheme, the host or the port, so
a URL that was accepted as it is written is accepted as it is used.
-/

namespace XoLedger

namespace RestApi

/-- What is read of a URL is read of it without the slashes at its end, up to slashes and blanks. -/
lemma exists_clean_withoutSlashes (url : String) : ∃ t, (∀ c ∈ t, c = '/' ∨ Url.isEdge c = true) ∧
    Url.clean url.toList = Url.clean (withoutSlashes url).toList ++ t := by
  obtain ⟨n, hslashes⟩ := exists_slashes url.toList
  rw [withoutSlashes, String.toList_ofList]
  cases n with
  | zero =>
    rw [List.replicate_zero, List.append_nil] at hslashes
    refine ⟨[], List.forall_mem_nil _, ?_⟩
    rw [← hslashes, List.append_nil]
  | succ n =>
    refine ⟨Url.blanks (dropEndWhile (· = '/') url.toList) ++ List.replicate (n + 1) '/', ?_, ?_⟩
    · intro c hc
      rcases List.mem_append.mp hc with hc | hc
      · exact .inr (Url.isEdge_of_mem_blanks hc)
      · exact .inl (List.eq_of_mem_replicate hc)
    · rw [← List.append_assoc, Url.clean_append_blanks]
      conv_lhs => rw [hslashes]
      exact Url.clean_append isEdge_of_mem_slashes (by simp) _

/-- A URL for the web stays one without the slashes at its end. -/
lemma exists_parse_withoutSlashes {url : String} {base : Url} (hbase : Url.parse url = .ok base)
    (hweb : hasWebScheme base = true) :
    ∃ cut, Url.parse (withoutSlashes url) = .ok cut ∧ hasWebScheme cut = true := by
  obtain ⟨t, ht, hclean⟩ := exists_clean_withoutSlashes url
  obtain ⟨usual, hscheme⟩ := exists_usualPort hweb
  rw [Url.parse_eq, hclean] at hbase
  obtain ⟨front, tail, hread, hfront⟩ := Url.exists_isRead ht hbase hscheme
  have hcut := hread.parse [] (by rw [List.append_nil]; exact hread.stop)
  rw [List.append_nil, ← Url.parse_eq] at hcut
  refine ⟨_, hcut, ?_⟩
  have hsame : (front.complete (Url.parsePath true) (tail ++ [])).scheme = base.scheme := hfront
  rw [hasWebScheme, hsame]
  exact hweb

end RestApi

/-- Settings pass the check exactly if their URL is one for the web and a call may be made. -/
lemma Settings.validate_eq_ok_iff {settings : Settings} {remarks : List Log.Line} :
    settings.validate = .ok remarks ↔
      trim settings.restApiUrl ≠ "" ∧
        (∃ base, Url.parse settings.restApiUrl = .ok base ∧ RestApi.hasWebScheme base = true) ∧
        settings.gatewayAttempts ≠ 0 ∧ remarks = settings.remarks := by
  unfold validate
  by_cases hempty : trim settings.restApiUrl = ""
  · simp [hempty]
  rw [if_neg hempty]
  cases hparse : Url.parse settings.restApiUrl with
  | error cause => simp
  | ok base =>
    by_cases hweb : RestApi.hasWebScheme base = true
    · by_cases hattempts : settings.gatewayAttempts = 0
      · simp [hweb, hattempts]
      · have hsame : settings.remarks = remarks ↔ remarks = settings.remarks := eq_comm
        simp [hweb, hattempts, hempty, hsame]
    · simp [hweb]

namespace Client

variable {σ : Type}

/-- **Settings that pass the check can be connected.** Whoever signs and whatever network there is,
the client comes about, submits to and reads from the server with the URL in the settings, and
tries calls again exactly if more than one may be made: then as many as the settings say. -/
theorem connect_of_validate {settings : Settings} {remarks : List Log.Line}
    (h : settings.validate = .ok remarks) (carrier : Carrier σ) (signer : Signer) :
    ∃ gateway, connect carrier settings signer = .ok (ofGateway settings signer gateway) ∧
      (¬ 1 < settings.gatewayAttempts.toNat →
        gateway = (RestApi.mk settings.baseUrl).gateway carrier) ∧
      (1 < settings.gatewayAttempts.toNat →
        gateway = ((RestApi.mk settings.baseUrl).gateway carrier).retrying
          ⟨settings.gatewayAttempts.toNat, settings.gatewayRetryIntervalMs.toNat⟩) := by
  obtain ⟨-, ⟨base, hbase, hweb⟩, hattempts, -⟩ := Settings.validate_eq_ok_iff.mp h
  have hpositive : 0 < settings.gatewayAttempts.toNat := by
    rw [Nat.pos_iff_ne_zero]
    exact fun hzero => hattempts (UInt64.toNat_inj.mp hzero)
  have hdial : dial carrier settings = .ok (settings.server carrier) := by
    have hapi := RestApi.ofUrl_eq_ok_iff.mpr
      ⟨rfl, RestApi.exists_parse_withoutSlashes hbase hweb⟩
    obtain ⟨gateway, hgateway⟩ : ∃ gateway, dial carrier settings = .ok gateway := by
      rw [dial, Settings.baseUrl, hapi]
      exact ⟨_, rfl⟩
    rw [hgateway, eq_server_of_dial hgateway]
  refine ⟨settings.server carrier, by rw [connect, hdial]; rfl, fun hone => ?_, fun hmore => ?_⟩
  · rw [Settings.server, if_neg hone]
  · rw [Settings.server, if_pos hmore, Settings.retryPolicy, Nat.max_eq_left hpositive]

/-- Between the slashes at the end of a URL a blank is hidden, and a third call may be made. -/
theorem connect_of_validate_hidden_blank :
    let settings : Settings := { restApiUrl := "http://[::1]:8008/ //", gatewayAttempts := 3 }
    settings.validate = .ok settings.remarks ∧
      connect Network.carrier settings (.ofKey ⟨1, by decide, by decide⟩) =
        .ok (ofGateway settings (.ofKey ⟨1, by decide, by decide⟩)
          (((RestApi.mk "http://[::1]:8008/ ").gateway Network.carrier).retrying ⟨3, 1500⟩)) := by
  intro settings
  have hvalid : settings.validate = .ok settings.remarks := by decide +kernel
  have hbase : settings.baseUrl = "http://[::1]:8008/ " := by decide +kernel
  obtain ⟨gateway, hclient, -, hmore⟩ :=
    connect_of_validate hvalid Network.carrier (.ofKey ⟨1, by decide, by decide⟩)
  obtain rfl := hmore (by decide)
  rw [hbase] at hclient
  exact ⟨hvalid, hclient⟩

end Client

end XoLedger
