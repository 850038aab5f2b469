/-!
# Script templates

The scripts that answer a browser's question where to send a request, with a slot for each
value that differs from run to run. A slot is a name in capitals between double underscores.
The full script keeps the rules of each source in four lists and asks them in order; the short
one does the same; the domain script looks for the host and its parent domains in two sorted
lists; the envelope evaluates a script that it holds in Base64. A brace is written by its code
throughout.
-/

namespace PacRules.Script.Template

def full : String :=
  "/**
 * genpac __VERSION__
 * Generated: __GENERATED__
 * GFWList Last-Modified: __MODIFIED__
 * GFWList From: __GFWLIST_FROM__
 */

var proxy = __PROXY__;
var rules = __RULES__;

function FindProxyForURL(url, host) \x7b
    for (var i = 0; i < rules.length; i++) \x7b
        var ret = testURL(url, rules[i]);
        if (ret !== undefined) \x7b
            return ret;
        \x7d
    \x7d
    return 'DIRECT';
\x7d

// [directRegexp, directWildcard, proxyRegexp, proxyWildcard]
function testURL(url, pack) \x7b
    if (anyRegExp(url, pack[0]) || anyWildcard(url, pack[1])) \x7b
        return 'DIRECT';
    \x7d
    if (anyRegExp(url, pack[2]) || anyWildcard(url, pack[3])) \x7b
        return proxy;
    \x7d
    return undefined;
\x7d

function anyRegExp(url, patterns) \x7b
    for (var i = 0; i < patterns.length; i++) \x7b
        if (regExpMatch(url, patterns[i])) \x7b
            return true;
        \x7d
    \x7d
    return false;
\x7d

// A pattern the JS engine cannot compile never matches.
function regExpMatch(url, pattern) \x7b
    try \x7b
        return new RegExp(pattern).test(url);
    \x7d catch (ex) \x7b
        return false;
    \x7d
\x7d

function anyWildcard(url, patterns) \x7b
    for (var i = 0; i < patterns.length; i++) \x7b
        if (shExpMatch(url, patterns[i])) \x7b
            return true;
        \x7d
    \x7d
    return false;
\x7d
"

def short : String :=
  "/**
 * genpac __VERSION__
 * Generated: __GENERATED__
 * GFWList Last-Modified: __MODIFIED__
 * GFWList From: __GFWLIST_FROM__
 */
var proxy=__PROXY__,rules=__RULES__;function FindProxyForURL(r,n)\x7bfor(var e=0;e<rules.length;e++)\x7bvar t=u(r,rules[e]);if(void 0!==t)return t\x7dreturn\"DIRECT\"\x7dfunction u(r,n)\x7breturn x(r,n[0])||s(r,n[1])?\"DIRECT\":x(r,n[2])||s(r,n[3])?proxy:void 0\x7dfunction x(r,n)\x7bfor(var e=0;e<n.length;e++)if(m(r,n[e]))return!0;return!1\x7dfunction m(r,n)\x7btry\x7breturn new RegExp(n).test(r)\x7dcatch(e)\x7breturn!1\x7d\x7dfunction s(r,n)\x7bfor(var e=0;e<n.length;e++)if(shExpMatch(r,n[e]))return!0;return!1\x7d
"

def domains : String :=
  "/**
 * genpac __VERSION__ (precise)
 * Generated: __GENERATED__
 * GFWList Last-Modified: __MODIFIED__
 * GFWList From: __GFWLIST_FROM__
 */

var proxy = __PROXY__;
// [direct, proxy], both sorted
var rules = __RULES__;

function FindProxyForURL(url, host) \x7b
    var domain = host.toLowerCase();
    while (domain) \x7b
        if (contains(rules[0], domain)) \x7b
            return 'DIRECT';
        \x7d
        if (contains(rules[1], domain)) \x7b
            return proxy;
        \x7d
        var dot = domain.indexOf('.');
        if (dot < 0) \x7b
            break;
        \x7d
        domain = domain.substring(dot + 1);
    \x7d
    return 'DIRECT';
\x7d

function contains(list, item) \x7b
    var lo = 0;
    var hi = list.length - 1;
    while (lo <= hi) \x7b
        var mid = (lo + hi) >> 1;
        if (list[mid] === item) \x7b
            return true;
        \x7d
        if (list[mid] < item) \x7b
            lo = mid + 1;
        \x7d else \x7b
            hi = mid - 1;
        \x7d
    \x7d
    return false;
\x7d
"

def envelope : String :=
  "/**
 * genpac __VERSION__ (base64)
 */
eval(decode64('__BASE64__'));

function decode64(input) \x7b
    var keys = 'ABCDEFGHIJKLMNOPQRSTUVWXYZabcdefghijklmnopqrstuvwxyz0123456789+/=';
    var bytes = [];
    var i = 0;
    input = input.replace(/[^A-Za-z0-9\\+\\/\\=]/g, '');
    while (i < input.length) \x7b
        var e1 = keys.indexOf(input.charAt(i++));
        var e2 = keys.indexOf(input.charAt(i++));
        var e3 = keys.indexOf(input.charAt(i++));
        var e4 = keys.indexOf(input.charAt(i++));
        bytes.push((e1 << 2) | (e2 >> 4));
        if (e3 !== 64) \x7b
            bytes.push(((e2 & 15) << 4) | (e3 >> 2));
        \x7d
        if (e4 !== 64) \x7b
            bytes.push(((e3 & 3) << 6) | e4);
        \x7d
    \x7d
    return utf8(bytes);
\x7d

function utf8(bytes) \x7b
    var out = '';
    var i = 0;
    while (i < bytes.length) \x7b
        var c = bytes[i++];
        if (c < 128) \x7b
            out += String.fromCharCode(c);
        \x7d else if (c > 191 && c < 224) \x7b
            out += String.fromCharCode(((c & 31) << 6) | (bytes[i++] & 63));
        \x7d else if (c > 239) \x7b
            var cp = ((c & 7) << 18) | ((bytes[i++] & 63) << 12) | ((bytes[i++] & 63) << 6) | (bytes[i++] & 63);
            cp -= 0x10000;
            out += String.fromCharCode(0xd800 + (cp >> 10), 0xdc00 + (cp & 1023));
        \x7d else \x7b
            out += String.fromCharCode(((c & 15) << 12) | ((bytes[i++] & 63) << 6) | (bytes[i++] & 63));
        \x7d
    \x7d
    return out;
\x7d
"

end PacRules.Script.Template
