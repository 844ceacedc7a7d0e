import ClassEnhancement.Build.ConfigFile
import ClassEnhancement.Settings.Store

/-!
# Errors of a service
-/

namespace ClassEnhancement

/-- Why a service could not do what it was asked. -/
inductive ServiceError where
  /-- The state could not be loaded or saved. -/
  | settings (error : SettingsError)
  /-- The settings or the structure of the project could not be read. -/
  | config (error : ConfigError)
  deriving DecidableEq, Repr

namespace ServiceError

/-- What the error is about. -/
def subject : ServiceError → String
  | settings _ => "settings error"
  | config _ => "configuration error"

/-- Wording of the cause. -/
def causeMessage : ServiceError → String
  | settings error => error.message
  | config error => error.message

/-- Wording of the error. -/
def message (error : ServiceError) : String := s!"{error.subject}: {error.causeMessage}"

end ServiceError
end ClassEnhancement
