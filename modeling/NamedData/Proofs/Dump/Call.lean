import NamedData.Dump.Run
import NamedData.Proofs.Results

/-!
# Calls

Before a call looks at a packet it finds the configuration, the bytes of the input and the kind of the
packet (`Takes`). What it writes is then the summary of this packet, so statements about calls come down
to statements about `summarize`.
-/

namespace NamedData.Dump

variable {options : Options} {raw input : Bytes} {config : PacketConfig} {kind : PacketKind}

/-- What a call takes its options and the raw input for. -/
structure Takes (options : Options) (raw : Bytes) (config : PacketConfig) (kind : PacketKind)
    (input : Bytes) : Prop where
  config_eq : options.loadConfig = .ok config
  input_eq : readInput options.hex raw = .ok input
  kind_eq : options.kind = some kind ∨ options.kind = none ∧ detectKind input = .ok kind

/-- What is written is the summary of the packet that the input is taken for. -/
theorem Takes.output_eq (h : Takes options raw config kind input) :
    output options raw = (summarize config kind input).map (Summary.render options.json) := by
  unfold output
  rw [h.config_eq, h.input_eq]
  rcases h.kind_eq with hgiven | ⟨hnone, hdetected⟩
  · simp only [bind, Except.bind, hgiven, pure, Except.pure]
    cases summarize config kind input <;> rfl
  · simp only [bind, Except.bind, hnone, hdetected, pure, Except.pure]
    cases summarize config kind input <;> rfl

/-- Every call that writes anything has taken its input for a packet. -/
theorem output_eq_ok_iff {text : String} : output options raw = .ok text ↔
    ∃ config kind input summary, Takes options raw config kind input
      ∧ summarize config kind input = .ok summary ∧ summary.render options.json = text := by
  constructor
  · intro h
    obtain ⟨config, hconfig, h⟩ := exists_of_bind_eq_ok h
    obtain ⟨input, hinput, h⟩ := exists_of_bind_eq_ok h
    cases hgiven : options.kind with
    | some kind =>
      rw [hgiven] at h
      obtain ⟨_, ⟨⟩, h⟩ := exists_of_bind_eq_ok h
      obtain ⟨summary, hsummary, ⟨⟩⟩ := exists_of_bind_eq_ok h
      exact ⟨config, kind, input, summary, ⟨hconfig, hinput, .inl hgiven⟩, hsummary, rfl⟩
    | none =>
      rw [hgiven] at h
      obtain ⟨kind, hdetected, h⟩ := exists_of_bind_eq_ok h
      obtain ⟨summary, hsummary, ⟨⟩⟩ := exists_of_bind_eq_ok h
      exact ⟨config, kind, input, summary, ⟨hconfig, hinput, .inr ⟨hgiven, hdetected⟩⟩, hsummary, rfl⟩
  · rintro ⟨config, kind, input, summary, htakes, hsummary, rfl⟩
    rw [htakes.output_eq, hsummary]
    rfl

/-- A call that can show its packet writes the summary and nothing else. -/
theorem Takes.run_eq {summary : Summary} (h : Takes options raw config kind input)
    (hsummary : summarize config kind input = .ok summary) :
    run options raw = ⟨0, summary.render options.json, ""⟩ := by
  rw [run, h.output_eq, hsummary]
  rfl

/-! ## Data packets -/

variable {d : Data} {blob : Wire.SignedBlob}

/-- A Data packet that is no link is shown with its full name. -/
theorem summarize_data
    (hdecode : (Wire.WireFormat.tlv config).decodeData input = .ok (d, blob))
    (htype : d.metaInfo.contentType ≠ .link) :
    summarize config .data input = (((fullName d).mapError .fullName).map (ofData · d)) := by
  have hdecoded : decodeAs .data ((Wire.WireFormat.tlv config).decodeData input) = .ok (d, blob) := by
    rw [hdecode]
    rfl
  simp only [summarize, hdecoded, bind, Except.bind, if_neg htype]
  cases fullName d <;> rfl

/-- A Data packet that is a link is shown as one, also where the kind is not given. -/
theorem summarize_link
    (hkind : kind = .data ∨ kind = .link)
    (hdecode : (Wire.WireFormat.tlv config).decodeData input = .ok (d, blob))
    (htype : d.metaInfo.contentType = .link) :
    summarize config kind input = summarizeLink d := by
  have hdecoded : decodeAs kind ((Wire.WireFormat.tlv config).decodeData input) = .ok (d, blob) := by
    rw [hdecode]
    rfl
  rcases hkind with rfl | rfl
  · simp only [summarize, hdecoded, bind, Except.bind, if_pos htype]
  · simp only [summarize, hdecoded, bind, Except.bind]

end NamedData.Dump
