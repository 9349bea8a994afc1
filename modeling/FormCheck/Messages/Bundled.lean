/-!
The message templates of the three languages that are always at hand.
-/
namespace FormCheck.Messages

def english : List (String × String) :=
  [("required", "The :field field is required."),
    ("email", "The :field field must be a valid email address."),
    ("min", "The :field field must be at least :min characters."),
    ("max", "The :field field may not be greater than :max characters."),
    ("numeric", "The :field field must be a number."),
    ("url", "The :field field must be a valid URL."),
    ("in", "The :field field must be one of the following: :allowed."),
    ("pattern", "The :field field does not match the required format."),
    ("date", "The :field field must be a valid date."),
    ("boolean", "The :field field must be a boolean (true/false, 1/0, yes/no)."),
    ("between", "The :field field must be between :min and :max."),
    ("file", "The :field field must be a valid file."),
    ("image", "The :field field must be a valid image."),
    ("size", "The :field field must have a size of :size."),
    ("alpha", "The :field field may only contain letters."),
    ("alpha_num", "The :field field may only contain letters and numbers."),
    ("alpha_dash", "The :field field may only contain letters, numbers, dashes and underscores."),
    ("confirmed", "The :field field confirmation does not match."),
    ("ip", "The :field field must be a valid IP address."),
    ("ipv4", "The :field field must be a valid IPv4 address."),
    ("ipv6", "The :field field must be a valid IPv6 address."),
    ("json", "The :field field must be a valid JSON string."),
    ("uuid", "The :field field must be a valid UUID."),
    ("accepted", "The :field field must be accepted."),
    ("filled", "The :field field must have a value."),
    ("before", "The :field field must be a date before :value."),
    ("after", "The :field field must be a date after :value."),
    ("different", "The :field field must be different from :other."),
    ("same", "The :field field must match :other.")]

def french : List (String × String) :=
  [("required", "Le champ :field est requis."),
    ("email", "Le champ :field doit être un email valide."),
    ("min", "Le champ :field doit contenir au moins :min caractères."),
    ("max", "Le champ :field ne peut pas dépasser :max caractères."),
    ("numeric", "Le champ :field doit être un nombre."),
    ("url", "Le champ :field doit être une URL valide."),
    ("in", "Le champ :field doit être l'une des valeurs suivantes : :allowed."),
    ("pattern", "Le champ :field ne correspond pas au format requis."),
    ("date", "Le champ :field doit être une date valide."),
    ("boolean", "Le champ :field doit être un booléen (true/false, 1/0, yes/no)."),
    ("between", "Le champ :field doit être entre :min et :max."),
    ("file", "Le champ :field doit être un fichier valide."),
    ("image", "Le champ :field doit être une image valide."),
    ("size", "Le champ :field doit avoir une taille de :size."),
    ("alpha", "Le champ :field ne doit contenir que des lettres."),
    ("alpha_num", "Le champ :field ne doit contenir que des lettres et des chiffres."),
    ("alpha_dash", "Le champ :field ne doit contenir que des lettres, chiffres, tirets et " ++
      "underscores."),
    ("confirmed", "Le champ :field doit être confirmé."),
    ("ip", "Le champ :field doit être une adresse IP valide."),
    ("ipv4", "Le champ :field doit être une adresse IPv4 valide."),
    ("ipv6", "Le champ :field doit être une adresse IPv6 valide."),
    ("json", "Le champ :field doit être une chaîne JSON valide."),
    ("uuid", "Le champ :field doit être un UUID valide."),
    ("accepted", "Le champ :field doit être accepté."),
    ("filled", "Le champ :field doit être rempli."),
    ("before", "Le champ :field doit être une date antérieure à :value."),
    ("after", "Le champ :field doit être une date postérieure à :value."),
    ("different", "Le champ :field doit être différent de :other."),
    ("same", "Le champ :field doit correspondre à :other.")]

def spanish : List (String × String) :=
  [("required", "El campo :field es obligatorio."),
    ("email", "El campo :field debe ser una dirección de correo electrónico válida."),
    ("min", "El campo :field debe tener al menos :min caracteres."),
    ("max", "El campo :field no puede tener más de :max caracteres."),
    ("numeric", "El campo :field debe ser un número."),
    ("url", "El campo :field debe ser una URL válida."),
    ("in", "El campo :field debe ser uno de los siguientes: :allowed."),
    ("pattern", "El campo :field no coincide con el formato requerido."),
    ("date", "El campo :field debe ser una fecha válida."),
    ("boolean", "El campo :field debe ser un booleano (true/false, 1/0, yes/no)."),
    ("between", "El campo :field debe estar entre :min y :max."),
    ("file", "El campo :field debe ser un archivo válido."),
    ("image", "El campo :field debe ser una imagen válida."),
    ("size", "El campo :field debe tener un tamaño de :size."),
    ("alpha", "El campo :field solo puede contener letras."),
    ("alpha_num", "El campo :field solo puede contener letras y números."),
    ("alpha_dash", "El campo :field solo puede contener letras, números, guiones y guiones bajos."),
    ("confirmed", "La confirmación del campo :field no coincide."),
    ("ip", "El campo :field debe ser una dirección IP válida."),
    ("ipv4", "El campo :field debe ser una dirección IPv4 válida."),
    ("ipv6", "El campo :field debe ser una dirección IPv6 válida."),
    ("json", "El campo :field debe ser una cadena JSON válida."),
    ("uuid", "El campo :field debe ser un UUID válido."),
    ("accepted", "El campo :field debe ser aceptado."),
    ("filled", "El campo :field debe tener un valor."),
    ("before", "El campo :field debe ser una fecha anterior a :value."),
    ("after", "El campo :field debe ser una fecha posterior a :value."),
    ("different", "El campo :field debe ser diferente de :other."),
    ("same", "El campo :field debe coincidir con :other.")]

def bundled? (locale : String) : Option (List (String × String)) :=
  match locale with
  | "en" => some english
  | "fr" => some french
  | "es" => some spanish
  | _ => none

def bundledLocales : List String := ["en", "fr", "es"]

def defaultLocale : String := "en"

end FormCheck.Messages
