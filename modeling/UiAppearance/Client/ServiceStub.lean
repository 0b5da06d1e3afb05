import UiAppearance.Client.AbilityClient
import UiAppearance.Ability.AccountSwitch
import UiAppearance.Ability.Setters

/-!
# What the service answers

The methods of the interface as a client reaches them: the result of the service
as a number, with the text where the method has one. A caller that is no system
application gets no result of `SetSettingData`; its code takes the place of the
success of the transport.
-/

namespace UiAppearance

def DarkMode.toInt : DarkMode → ℤ
  | .alwaysDark => 0
  | .alwaysLight => 1
  | .unknown => 2

namespace Service

variable (env : Env) (callerIsSystemApp : Bool) (s : Service)

/-- The state after a request, and the reply if there is one. -/
def answer : ClientRequest → Service × Option ClientReply
  | .setDarkMode mode =>
    let r := s.setDarkMode env mode
    (r.1, some ⟨r.2.toInt, none⟩)
  | .getDarkMode => (s, some ⟨(s.getDarkMode env).toInt, none⟩)
  | .setFontScale fontScale =>
    let r := s.setFontScale env fontScale
    (r.1, some ⟨r.2.toInt, none⟩)
  | .getFontScale => (s, some ⟨FuncResult.succeeded.toInt, some (s.getFontScale env)⟩)
  | .setFontWeightScale fontWeightScale =>
    let r := s.setFontWeightScale env fontWeightScale
    (r.1, some ⟨r.2.toInt, none⟩)
  | .getFontWeightScale =>
    (s, some ⟨FuncResult.succeeded.toInt, some (s.getFontWeightScale env)⟩)
  | .setSettingData key value =>
    if !callerIsSystemApp then (s, none)
    else (s.setSettingData env key value, some ⟨FuncResult.succeeded.toInt, none⟩)

/-- What a client with a working connection returns. -/
def clientAnswers (request : ClientRequest) : ClientReply :=
  ClientSystem.resultOf (s.answer env callerIsSystemApp request).2

end Service
end UiAppearance
