/-
**Saved configurations are loaded unchanged.**

Every record of a configuration is lossless: what a field leaves out is what a fresh record holds.
So the text of a configuration holds exactly this configuration.

* `ofSource_text`: the configuration in its own text.
* `keep_seccompText`: the filter on system calls in its own text.
* `seccompText_eq_empty_iff`: when that text is the empty object.
* `load_exportText`: what is exported is loaded, as a text and as the bytes of a file.
-/

import OciBundle.Config.File
import OciBundle.Proofs.Json.Lossless
import OciBundle.Proofs.Text.Utf8

namespace OciBundle

open Json (Lossless)
open Json.Record (lossless_of_restores)

/-! ### The process -/

instance : Lossless ConsoleSize :=
  lossless_of_restores (by decide) fun _ =>
    .always <| .always <| .done

instance : Lossless User :=
  lossless_of_restores (by decide) fun _ =>
    .always <| .always <| .unlessDefault rfl <| .unlessDefault rfl <| .done

instance : Lossless Rlimit :=
  lossless_of_restores (by decide) fun _ =>
    .always <| .always <| .always <| .done

instance : Lossless Process :=
  lossless_of_restores (by decide) fun _ =>
    .unlessDefault rfl <| .ifPresent rfl <| .always <| .always <| .unlessDefault rfl <|
    .always <| .unlessDefault rfl <| .unlessDefault rfl <| .unlessDefault rfl <|
    .unlessDefault rfl <| .ifPresent rfl <| .unlessDefault rfl <| .done

/-! ### File systems and hooks -/

instance : Lossless Root :=
  lossless_of_restores (by decide) fun _ =>
    .always <| .unlessDefault rfl <| .done

instance : Lossless Mount :=
  lossless_of_restores (by decide) fun _ =>
    .always <| .unlessDefault rfl <| .unlessDefault rfl <| .unlessDefault rfl <| .done

instance : Lossless Hook :=
  lossless_of_restores (by decide) fun _ =>
    .always <| .unlessDefault rfl <| .unlessDefault rfl <| .ifPresent rfl <| .done

instance : Lossless Hooks :=
  lossless_of_restores (by decide) fun _ =>
    .unlessDefault rfl <| .unlessDefault rfl <| .unlessDefault rfl <| .done

/-! ### Limits -/

instance : Lossless DeviceRule :=
  lossless_of_restores (by decide) fun _ =>
    .always <| .unlessDefault rfl <| .ifPresent rfl <| .ifPresent rfl <| .unlessDefault rfl <|
    .done

instance : Lossless Memory :=
  lossless_of_restores (by decide) fun _ =>
    .ifPresent rfl <| .ifPresent rfl <| .ifPresent rfl <| .ifPresent rfl <| .ifPresent rfl <|
    .ifPresent rfl <| .ifPresent rfl <| .done

instance : Lossless Cpu :=
  lossless_of_restores (by decide) fun _ =>
    .ifPresent rfl <| .ifPresent rfl <| .ifPresent rfl <| .ifPresent rfl <| .ifPresent rfl <|
    .unlessDefault rfl <| .unlessDefault rfl <| .done

instance : Lossless Pids :=
  lossless_of_restores (by decide) fun _ =>
    .always <| .done

instance : Lossless WeightDevice :=
  lossless_of_restores (by decide) fun _ =>
    .always <| .always <| .ifPresent rfl <| .ifPresent rfl <| .done

instance : Lossless ThrottleDevice :=
  lossless_of_restores (by decide) fun _ =>
    .always <| .always <| .always <| .done

instance : Lossless BlockIo :=
  lossless_of_restores (by decide) fun _ =>
    .ifPresent rfl <| .ifPresent rfl <| .unlessDefault rfl <| .unlessDefault rfl <|
    .unlessDefault rfl <| .unlessDefault rfl <| .unlessDefault rfl <| .done

instance : Lossless HugepageLimit :=
  lossless_of_restores (by decide) fun _ =>
    .always <| .always <| .done

instance : Lossless InterfacePriority :=
  lossless_of_restores (by decide) fun _ =>
    .always <| .always <| .done

instance : Lossless Network :=
  lossless_of_restores (by decide) fun _ =>
    .ifPresent rfl <| .unlessDefault rfl <| .done

instance : Lossless Resources :=
  lossless_of_restores (by decide) fun _ =>
    .unlessDefault rfl <| .ifPresent rfl <| .ifPresent rfl <| .ifPresent rfl <| .ifPresent rfl <|
    .unlessDefault rfl <| .ifPresent rfl <| .done

/-! ### The filter on system calls -/

instance : Lossless ArgCondition :=
  lossless_of_restores (by decide) fun _ =>
    .always <| .always <| .unlessDefault rfl <| .always <| .done

instance : Lossless SyscallRule :=
  lossless_of_restores (by decide) fun _ =>
    .always <| .always <| .unlessDefault rfl <| .done

instance : Lossless Seccomp :=
  lossless_of_restores (by decide) fun _ =>
    .always <| .unlessDefault rfl <| .unlessDefault rfl <| .done

/-! ### Linux and the whole -/

instance : Lossless IdMapping :=
  lossless_of_restores (by decide) fun _ =>
    .always <| .always <| .always <| .done

instance : Lossless Namespace :=
  lossless_of_restores (by decide) fun _ =>
    .always <| .unlessDefault rfl <| .done

instance : Lossless Device :=
  lossless_of_restores (by decide) fun _ =>
    .always <| .always <| .always <| .always <| .ifPresent rfl <| .ifPresent rfl <|
    .ifPresent rfl <| .done

instance : Lossless Linux :=
  lossless_of_restores (by decide) fun _ =>
    .unlessDefault rfl <| .unlessDefault rfl <| .unlessDefault rfl <| .ifPresent rfl <|
    .ifPresent rfl <| .unlessDefault rfl <| .unlessDefault rfl <| .ifPresent rfl <|
    .unlessDefault rfl <| .unlessDefault rfl <| .unlessDefault rfl <| .unlessDefault rfl <| .done

instance : Lossless Platform :=
  lossless_of_restores (by decide) fun _ =>
    .always <| .always <| .done

instance : Lossless Config :=
  lossless_of_restores (by decide) fun _ =>
    .always <| .always <| .always <| .always <| .unlessDefault rfl <| .unlessDefault rfl <|
    .ifPresent rfl <| .unlessDefault rfl <| .ifPresent rfl <| .done

namespace Config

/-! ### Exported texts -/

/-- The text of a configuration holds that configuration. -/
theorem ofSource_text (config : Config) : ofSource (.ofString config.text) = .ok config :=
  Json.keep_read_document config

/-- The text of the filter on system calls holds that filter. -/
theorem keep_seccompText {config : Config} {seccomp : Seccomp}
    (present : config.seccomp = some seccomp) :
    (Json.Document.read (.ofString config.seccompText)).keep Json.decode = .ok seccomp := by
  rw [seccompText, present]
  exact Json.keep_read_document seccomp

/-- Behind its opening brace, a written filter goes on with a line end. -/
theorem document_encode_seccomp (seccomp : Seccomp) :
    ∃ rest, (Json.document (Json.encode seccomp)).toList = '\x7b' :: '\n' :: rest := by
  obtain ⟨others, members⟩ : ∃ others, Json.encode seccomp =
      .object (("defaultAction", .text seccomp.defaultAction) :: others) := ⟨_, rfl⟩
  rw [members, Json.document, String.toList_ofList, Json.render, Json.newLine]
  exact ⟨_, rfl⟩

/-- The text of the filter is the empty object exactly when there is no filter. -/
theorem seccompText_eq_empty_iff (config : Config) :
    config.seccompText = "\x7b\x7d\n" ↔ config.seccomp = none := by
  constructor
  · intro empty
    cases present : config.seccomp with
    | none => rfl
    | some seccomp =>
      obtain ⟨rest, text⟩ := document_encode_seccomp seccomp
      rw [seccompText, present] at empty
      have chars := text.symm.trans (congrArg String.toList empty)
      cases chars
  · intro absent
    rw [seccompText, absent]
    rfl

/-- **Saving and loading is lossless.** A configuration is loaded unchanged from its exported text,
also from the bytes that it is stored as; so is its filter on system calls, in whose place the empty
object stands exactly when there is none. -/
theorem load_exportText (config : Config) :
    ofSource (.ofString (config.exportText .whole)) = .ok config ∧
      ofSource (.ofBytes (Text.utf8Bytes (config.exportText .whole))) = .ok config ∧
      (∀ seccomp ∈ config.seccomp,
        (Json.Document.read (.ofString (config.exportText .seccomp))).keep Json.decode =
          .ok seccomp) ∧
      (config.exportText .seccomp = "\x7b\x7d\n" ↔ config.seccomp = none) := by
  refine ⟨ofSource_text config, ?_, ?_, seccompText_eq_empty_iff config⟩
  · rw [Source.ofBytes_utf8Bytes]
    exact ofSource_text config
  · intro seccomp present
    exact keep_seccompText present

end Config

end OciBundle
